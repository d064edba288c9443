/-
This file models how a result is handed from the kernel to the application, and proves
that it is not lost on the way.

`pump_results` claims a delivery from the kernel's outbox, compares it with the authoritative
execution, commits the result locally, and only then acknowledges the delivery. The two stores
commit separately, so a pump may stop between any two of its steps.
-/

import DispatcherSdk.ExecutionKernel.ResultDelivery
import DispatcherSdk.Orchestrator.Clocks

namespace DispatcherSdk.Orchestrator

open Library Library.Checked ExecutionKernel Attempt Table List

/-! ### The joint state -/

/-- Where a pump stands with one delivery. -/
inductive Pump where
  /-- `claim_outbox` has handed it out. -/
  | claimed (delivery : Delivery)
  /-- `kernel.get` agrees with it. -/
  | verified (delivery : Delivery) (snapshot : ExecutionSnapshot)
  /-- The local transaction has committed. -/
  | committed (delivery : Delivery)

/-- The kernel's store, its outbox with the columns of each delivery, the store of the SDK, and the
deliveries that pumps are working on. -/
structure HandOff where
  kernel : KernelState
  outbox : ResultOutbox
  store : Store Results
  pumps : List Pump

/-- The delivery of a result that a completion has put into the outbox. -/
def openedDelivery (row : OutboxRow) : Delivery where
  resultId := row.resultId
  executionId := row.executionId
  result := row.result
  state := .pending
  leaseId := none
  leaseOwner := none
  fence := 0
  attempts := 0
  maxAttempts := row.maxAttempts
  leaseExpiresAt := none
  nextAttemptAt := row.createdAt
  lastError := none
  revision := 1
  createdAt := row.createdAt
  updatedAt := row.createdAt

/-- The deliveries after the kernel has stored these results. -/
def followResults (outbox : ResultOutbox) (stored : List OutboxRow) : ResultOutbox :=
  stored.foldl (fun outbox row =>
    if (outbox.find? row.resultId).isSome then outbox else outbox.put (openedDelivery row)) outbox

/-- What `pump_results` asks of the authoritative execution. -/
def checkDelivery (snapshot : ExecutionSnapshot) (delivery : Delivery) : Except SdkError Unit :=
  check
    ((∃ result ∈ snapshot.result, result.toDict.encode = delivery.result.toDict.encode) ∧
      snapshot.executionId = delivery.executionId ∧
      delivery.result.resultId = delivery.resultId ∧
      snapshot.command.executionId = delivery.result.executionId ∧
      snapshot.command.correlationId = delivery.result.correlationId ∧
      snapshot.command.causationId = delivery.result.causationId ∧
      snapshot.state = delivery.result.status)
    ⟨.resultConflict, "Kernel delivery differs from authoritative execution"⟩

/-- `kernel.get`. -/
def kernelGet (kernel : KernelState) (executionId : Identifier) :
    Except KernelError ExecutionSnapshot := do
  let row ← present (kernel.database.executions.find? executionId) (.key executionId.text)
  row.snapshot

inductive HandOff.Step (arithmetic : FloatArithmetic) (state : HandOff) : HandOff → Prop
  /-- Any operation of the kernel; a completion puts its result into the outbox. -/
  | kernel (operation : ExecutionKernel.Operation) (environment : ExecutionKernel.Environment) :
      Step arithmetic state
        { state with
          kernel := operation.apply environment state.kernel
          outbox := followResults state.outbox
            (operation.apply environment state.kernel).database.resultOutbox.rows }
  /-- `reap_outbox`. -/
  | reap (timestamp : Timestamp) :
      Step arithmetic state { state with outbox := (state.outbox.reapOutbox timestamp).1 }
  /-- `retry_kernel_result_outbox`. -/
  | reopen (resultId : Identifier) (expectedRevision : ℕ) (timestamp : Timestamp)
      (outbox : ResultOutbox) (record : Delivery)
      (accepted : state.outbox.retryResultOutbox resultId expectedRevision timestamp =
        .ok (outbox, record)) : Step arithmetic state { state with outbox }
  /-- A claim that hands nothing out. -/
  | idle (owner : Identifier) (leaseSeconds : Timestamp) (uuid : Identifier)
      (timestamp : Timestamp) (outbox : ResultOutbox)
      (accepted : state.outbox.claimOutbox arithmetic owner leaseSeconds uuid timestamp =
        .ok (outbox, none)) : Step arithmetic state { state with outbox }
  /-- A pump claims a delivery. -/
  | claim (owner : Identifier) (leaseSeconds : Timestamp) (uuid : Identifier)
      (timestamp : Timestamp) (outbox : ResultOutbox) (delivery : Delivery)
      (accepted : state.outbox.claimOutbox arithmetic owner leaseSeconds uuid timestamp =
        .ok (outbox, some delivery)) :
      Step arithmetic state { state with outbox, pumps := .claimed delivery :: state.pumps }
  /-- A pump reads the authoritative execution. -/
  | verify (before after : List Pump) (delivery : Delivery) (snapshot : ExecutionSnapshot)
      (working : state.pumps = before ++ .claimed delivery :: after)
      (read : kernelGet state.kernel delivery.result.executionId = .ok snapshot)
      (agrees : checkDelivery snapshot delivery = .ok ()) :
      Step arithmetic state { state with pumps := before ++ .verified delivery snapshot :: after }
  /-- A pump commits the result locally. -/
  | commit (before after : List Pump) (delivery : Delivery) (snapshot : ExecutionSnapshot)
      (maxAttempts : ℕ) (environment : Environment)
      (working : state.pumps = before ++ .verified delivery snapshot :: after)
      (answered : (receiveResult environment state.store delivery.result.resultId
        delivery.result.executionId delivery.result.toDict snapshot.revision maxAttempts).1 =
          .ok ()) :
      Step arithmetic state
        { state with
          store := (receiveResult environment state.store delivery.result.resultId
            delivery.result.executionId delivery.result.toDict snapshot.revision maxAttempts).2
          pumps := before ++ .committed delivery :: after }
  /-- The local transaction of a pump is not answered, whether it has committed or not. -/
  | abort (before after : List Pump) (delivery : Delivery) (snapshot : ExecutionSnapshot)
      (maxAttempts : ℕ) (environment : Environment)
      (working : state.pumps = before ++ .verified delivery snapshot :: after) :
      Step arithmetic state
        { state with
          store := (receiveResult environment state.store delivery.result.resultId
            delivery.result.executionId delivery.result.toDict snapshot.revision maxAttempts).2
          pumps := before ++ after }
  /-- A pump acknowledges the delivery. -/
  | acknowledge (before after : List Pump) (delivery : Delivery) (leaseId : Identifier)
      (timestamp : Timestamp) (outbox : ResultOutbox) (record : Delivery)
      (working : state.pumps = before ++ .committed delivery :: after)
      (leased : delivery.leaseId = some leaseId)
      (accepted : state.outbox.ackOutbox delivery.result.resultId leaseId delivery.fence timestamp =
        .ok (outbox, record)) :
      Step arithmetic state { state with outbox, pumps := before ++ after }
  /-- A pump stops for good. -/
  | crash (before after : List Pump) (pump : Pump)
      (working : state.pumps = before ++ pump :: after) :
      Step arithmetic state { state with pumps := before ++ after }
  /-- The application claims, acknowledges, reaps or retries its own deliveries. -/
  | apply (call : ResultsCall) (environment : Environment)
      (local_ : ∀ resultId executionId result kernelRevision maxAttempts,
        call ≠ .receive resultId executionId result kernelRevision maxAttempts) :
      Step arithmetic state { state with store := call.apply environment state.store }
  /-- The orchestrator registers executions. -/
  | register (generations : Identifier → Option ℕ) :
      Step arithmetic state
        { state with store := { state.store with tables := { state.store.tables with generations } } }

/-- New stores, and every interleaving of the steps. -/
def handOff (arithmetic : FloatArithmetic) : TransitionSystem HandOff where
  initial state := (∃ storeId, state.kernel = .initial storeId) ∧ state.outbox = ∅ ∧
    state.store.tables.rows = ∅ ∧ state.pumps = []
  step := HandOff.Step arithmetic

/-! ### What becomes of a result of the SDK -/

/-- The facts of a stored result stay, and a delivered one stays as it is. -/
structure ResultRow.Keeps (row later : ResultRow) : Prop where
  resultId : later.resultId = row.resultId
  executionId : later.executionId = row.executionId
  result : later.result = row.result
  kernelRevision : later.kernelRevision = row.kernelRevision
  delivered : row.state = .delivered → later = row

theorem ResultRow.Keeps.refl (row : ResultRow) : row.Keeps row :=
  ⟨rfl, rfl, rfl, rfl, fun _ => rfl⟩

theorem ResultRow.Keeps.trans {first second third : ResultRow} (left : first.Keeps second)
    (right : second.Keeps third) : first.Keeps third where
  resultId := right.resultId.trans left.resultId
  executionId := right.executionId.trans left.executionId
  result := right.result.trans left.result
  kernelRevision := right.kernelRevision.trans left.kernelRevision
  delivered := fun delivered => by
    have same := left.delivered delivered
    subst same
    exact right.delivered delivered

/-- Every stored result is kept and none is added. -/
abbrev Results.Keeps (before after : Results) : Prop :=
  Rowwise ResultRow.Keeps (fun _ => False) before.rows after.rows

theorem Results.Keeps.trans {first second third : Results} (left : first.Keeps second)
    (right : second.Keeps third) : first.Keeps third :=
  Rowwise.trans (fun early late => early.trans late) (fun absurd _ => absurd) left right

theorem Results.keeps_refl (results : Results) : results.Keeps results :=
  Rowwise.refl ResultRow.Keeps.refl _

variable {row later : ResultRow} {resultId : Identifier} {timestamp : Timestamp}

theorem Results.keeps_write {results : Results}
    (found : results.rows.find? resultId = some row) (keeps : row.Keeps later) :
    results.Keeps (results.write later) :=
  Rowwise.put ResultRow.Keeps.refl (mem_of_find? found) keeps.resultId keeps

theorem Results.keeps_reap (results : Results) (now : Timestamp) :
    results.Keeps (results.reap now) := by
  show Rowwise _ _ results.rows (results.rows.update _ fun row => row.reaped_resultId now)
  refine Rowwise.update fun row _ => ?_
  unfold ResultRow.reaped
  split
  · rename_i overdue
    unfold ResultRow.overdue at overdue
    simp only [Bool.and_eq_true, decide_eq_true_eq] at overdue
    refine ⟨rfl, rfl, rfl, rfl, fun delivered => ?_⟩
    rw [overdue.1] at delivered
    cases delivered
  · exact .refl row

section Bodies

variable {environment : Environment} {frame : Frame Results}

variable {owner : Identifier}

theorem leaseResults_keeps {expires now : Timestamp} {rows : List ResultRow}
    (frame : Frame Results) (stored : ∀ row ∈ rows, frame.tables.rows.find? row.resultId = some row)
    (pending : ∀ row ∈ rows, row.state = .pending) (distinct : (rows.map ResultRow.resultId).Nodup) :
    Ensures (leaseResults owner expires now rows) environment frame fun claims next =>
      frame.tables.Keeps next.tables ∧ claims.map ResultClaim.resultId = rows.map ResultRow.resultId := by
  induction rows generalizing frame with
  | nil => exact ensures_pure ⟨frame.tables.keeps_refl, rfl⟩
  | cons row rest hypothesis =>
    rw [map_cons, nodup_cons] at distinct
    unfold leaseResults
    refine ensures_bind (ensures_uuid fun leaseId => ?_)
    refine ensures_bind (ensures_modify ?_)
    refine ensures_bind (ensures_tables (ensures_bind ?_))
    have leased : row.Keeps (row.leased leaseId owner expires now) := by
      refine ⟨rfl, rfl, rfl, rfl, fun delivered => ?_⟩
      rw [pending row mem_cons_self] at delivered
      cases delivered
    refine (hypothesis _ (fun other member => ?_)
      (fun other member => pending other (mem_cons_of_mem row member)) distinct.2).mono
        fun claims next done => ensures_pure ⟨?_, ?_⟩
    · have different : other.resultId ≠ row.resultId := by
        intro same
        exact distinct.1 (same ▸ mem_map_of_mem member)
      exact (@Table.find?_put_other _ _ _ _ frame.tables.rows (row.leased leaseId owner expires now)
        _ different).trans (stored other (mem_cons_of_mem row member))
    · exact (Results.keeps_write (stored row mem_cons_self) leased).trans done.1
    · rw [map_cons, map_cons, done.2]

variable {now : Timestamp}

theorem claimResultsBody_keeps {duration : Timestamp} {limit : ℕ} :
    Ensures (claimResultsBody owner duration limit now) environment frame fun claims next =>
      frame.tables.Keeps next.tables ∧ ∀ claim ∈ claims, ∀ row,
        frame.tables.rows.find? claim.resultId = some row → row.state ≠ .delivered := by
  refine ensures_bind (ensures_ask (then_expect fun expires _ => ?_))
  refine ensures_bind (ensures_bind (ensures_tables (ensures_bind (ensures_modify ?_))))
  refine ensures_pure (ensures_bind (ensures_tables ?_))
  have reaped := frame.tables.keeps_reap now
  have due : ∀ row ∈ (frame.tables.reap now).due now limit,
      row ∈ (frame.tables.reap now).rows ∧ row.state = .pending := by
    intro row member
    have sorted := mem_of_mem_take member
    rw [mem_insertionSort, mem_filter] at sorted
    simp only [decide_eq_true_eq] at sorted
    exact ⟨sorted.1, sorted.2.1⟩
  have scanned : (((frame.tables.reap now).due now limit).map ResultRow.resultId).Nodup := by
    refine List.Nodup.sublist ((take_sublist _ _).map _) ?_
    refine ((perm_insertionSort _ _).map _).nodup_iff.mpr ?_
    exact (frame.tables.reap now).rows.unique.sublist (filter_sublist.map _)
  refine (leaseResults_keeps _ (fun row member => Table.find?_key (due row member).1)
    (fun row member => (due row member).2) scanned).mono fun claims next done => ?_
  refine ⟨reaped.trans done.1, fun claim member row found delivered => ?_⟩
  have named : claim.resultId ∈ ((frame.tables.reap now).due now limit).map ResultRow.resultId :=
    done.2 ▸ mem_map_of_mem member
  obtain ⟨handed, scannedOut, same⟩ := mem_map.mp named
  obtain ⟨later, stored, keeps⟩ := Rowwise.find? reaped found
  obtain ⟨stays, pending⟩ := due handed scannedOut
  have equal : later = handed := Option.some.inj (stored.symm.trans (same ▸ Table.find?_key stays))
  rw [keeps.delivered delivered] at equal
  rw [← equal, delivered] at pending
  cases pending

theorem acknowledgeResultBody_keeps {leaseId : Identifier} {fence : ℕ} :
    Ensures (acknowledgeResultBody resultId leaseId fence now) environment frame fun _ next =>
      frame.tables.Keeps next.tables := by
  refine ensures_bind (getResult_ensures fun row found => ?_)
  refine ensures_ite (fun _ => resultRecord_ensures fun _ => frame.tables.keeps_refl) fun _ => ?_
  refine then_lift fun _ accepted => ?_
  refine ensures_bind (ensures_modify ?_)
  refine ensures_bind (getResult_ensures fun _ _ => resultRecord_ensures fun _ => ?_)
  refine Results.keeps_write found ⟨rfl, rfl, rfl, rfl, fun delivered => ?_⟩
  unfold ResultRow.deliverable at accepted
  split at accepted
  · rename_i held
    rw [delivered] at held
    cases held.2
  · cases accepted

theorem retryResultBody_keeps {expectedRevision : ℕ} :
    Ensures (retryResultBody resultId expectedRevision now) environment frame fun _ next =>
      frame.tables.Keeps next.tables := by
  refine ensures_bind (getResult_ensures fun row found => ?_)
  refine ensures_ite (fun _ => resultRecord_ensures fun _ => frame.tables.keeps_refl) fun _ => ?_
  refine then_require fun _ => then_require fun dead => ?_
  refine ensures_bind (ensures_modify ?_)
  refine ensures_bind (getResult_ensures fun _ _ => resultRecord_ensures fun _ => ?_)
  refine Results.keeps_write found ⟨rfl, rfl, rfl, rfl, fun delivered => ?_⟩
  rw [dead] at delivered
  cases delivered

end Bodies
/-- What a pump has committed: the result, under its identity and the revision it was read at. -/
structure ResultRow.States (row : ResultRow) (resultId executionId : Identifier) (result : Json)
    (kernelRevision : ℕ) : Prop where
  resultId : row.resultId = resultId
  executionId : row.executionId = executionId
  result : row.result.encode = result.encode
  kernelRevision : row.kernelRevision = kernelRevision

theorem ResultRow.States.keeps {executionId : Identifier} {result : Json} {kernelRevision : ℕ}
    (states : row.States resultId executionId result kernelRevision) (keeps : row.Keeps later) :
    later.States resultId executionId result kernelRevision :=
  ⟨keeps.resultId.trans states.resultId, keeps.executionId.trans states.executionId,
    (congrArg Json.encode keeps.result).trans states.result,
    keeps.kernelRevision.trans states.kernelRevision⟩

def Results.OnePerExecution (results : Results) : Prop :=
  ∀ left ∈ results.rows, ∀ right ∈ results.rows, left.executionId = right.executionId → left = right

theorem Results.OnePerExecution.keeps {before after : Results} (one : before.OnePerExecution)
    (keeps : before.Keeps after) : after.OnePerExecution := by
  intro left leftMember right rightMember same
  obtain ⟨first, firstMember, firstKey, firstKeeps⟩ | ⟨_, absurd⟩ :=
    keeps.backward left leftMember
  · obtain ⟨second, secondMember, secondKey, secondKeeps⟩ | ⟨_, absurd⟩ :=
      keeps.backward right rightMember
    · have equal : first = second := one first firstMember second secondMember
        (firstKeeps.executionId.symm.trans (same.trans secondKeeps.executionId))
      exact eq_of_key_eq leftMember rightMember
        (firstKey.symm.trans ((congrArg ResultRow.resultId equal).trans secondKey))
    · exact absurd.elim
  · exact absurd.elim

/-- A pump finds its result stored, or stores it as the first one of its execution. -/
def Results.Receives (before after : Results) (resultId executionId : Identifier) (result : Json)
    (kernelRevision : ℕ) : Prop :=
  (after = before ∧ ∃ row ∈ before.rows, row.States resultId executionId result kernelRevision) ∨
    ((∀ row ∈ before.rows, row.resultId ≠ resultId ∧ row.executionId ≠ executionId) ∧
      ∃ maxAttempts now, after =
        before.write (.received resultId executionId result kernelRevision maxAttempts now))

section Receiving

variable {executionId : Identifier} {result : Json} {kernelRevision : ℕ}

theorem receiveResultBody_receives {environment : Environment} {frame : Frame Results}
    {maxAttempts : ℕ} {now : Timestamp} :
    Ensures (receiveResultBody resultId executionId result kernelRevision maxAttempts now)
      environment frame fun _ next =>
        frame.tables.Receives next.tables resultId executionId result kernelRevision := by
  refine ensures_bind (ensures_tables ?_)
  cases previous : frame.tables.rows.rows.find? fun row =>
      row.resultId = resultId || row.executionId = executionId with
  | some row =>
    refine ensures_require fun same => Or.inl ⟨rfl, row, mem_of_find?_eq_some previous, ?_⟩
    exact ⟨same.1, same.2.1, same.2.2.1, same.2.2.2⟩
  | none =>
    refine ensures_modify (.inr ⟨fun row member => ?_, maxAttempts, now, rfl⟩)
    have missing := List.find?_eq_none.mp previous row member
    simpa using missing

variable {before after : Results}

section

variable (receives : before.Receives after resultId executionId result kernelRevision)

include receives

theorem Results.Receives.rowwise :
    Rowwise ResultRow.Keeps (fun row => row.state = .pending) before.rows after.rows := by
  obtain ⟨rfl, _⟩ | ⟨absent, maxAttempts, now, rfl⟩ := receives
  · exact Rowwise.refl ResultRow.Keeps.refl _
  · exact Rowwise.insert ResultRow.Keeps.refl
      (find?_eq_none_iff.mpr fun row member => (absent row member).1) rfl

theorem Results.Receives.onePerExecution (one : before.OnePerExecution) :
    after.OnePerExecution := by
  obtain ⟨rfl, _⟩ | ⟨absent, maxAttempts, now, rfl⟩ := receives
  · exact one
  · intro left leftMember right rightMember same
    rcases mem_put.mp leftMember with rfl | ⟨leftOld, _⟩
    · rcases mem_put.mp rightMember with rfl | ⟨rightOld, _⟩
      · rfl
      · exact absurd same.symm (absent right rightOld).2
    · rcases mem_put.mp rightMember with rfl | ⟨rightOld, _⟩
      · exact absurd same (absent left leftOld).2
      · exact one left leftOld right rightOld same

theorem Results.Receives.states :
    ∃ row ∈ after.rows, row.States resultId executionId result kernelRevision := by
  obtain ⟨rfl, stored⟩ | ⟨_, maxAttempts, now, rfl⟩ := receives
  · exact stored
  · exact ⟨_, mem_put.mpr (.inl rfl), rfl, rfl, rfl, rfl⟩

end

end Receiving

/-! ### What the operations do to the store of the SDK -/

section Operations

variable {environment : Environment} {store : Store Results}

theorem receiveResult_receives (environment : Environment) (store : Store Results)
    (resultId executionId : Identifier) (result : Json) (kernelRevision maxAttempts : ℕ) :
    let ran :=
      receiveResult environment store resultId executionId result kernelRevision maxAttempts
    (ran.2.tables = store.tables ∧ ran.1 ≠ .ok ()) ∨
      store.tables.Receives ran.2.tables resultId executionId result kernelRevision := by
  have transacts : Transacts store
      (fun _ after => store.tables.Receives after.tables resultId executionId result kernelRevision)
      (receiveResult environment store resultId executionId result kernelRevision maxAttempts) :=
    transaction_transacts fun _ _ => receiveResultBody_receives
  intro ran
  obtain ⟨⟨failure, failed⟩, same⟩ | ⟨_, after, receives, reached, _⟩ := transacts.outcome
  · refine Or.inl ⟨same, fun answered => ?_⟩
    rw [show ran.1 = .error failure from failed] at answered
    cases answered
  · refine Or.inr ?_
    rw [show ran.2 = ⟨after.tables, after.watermark⟩ from reached]
    exact receives

theorem Transacts.keeps {Answer : Type} {condition : Answer → Frame Results → Prop}
    {result : Except SdkError Answer × Store Results} (transacts : Transacts store condition result)
    (kept : ∀ answer next, condition answer next → store.tables.Keeps next.tables) :
    store.tables.Keeps result.2.tables := by
  obtain ⟨-, same⟩ | ⟨answer, next, done, reached, -⟩ := transacts.outcome
  · rw [same]
    exact store.tables.keeps_refl
  · rw [reached]
    exact kept answer next done

variable {leaseSeconds : Timestamp}

variable {owner : Identifier}

theorem claimResults_transacts {limit : ℕ} :
    Transacts store (fun claims next => store.tables.Keeps next.tables ∧ ∀ claim ∈ claims,
        ∀ row, store.tables.rows.find? claim.resultId = some row → row.state ≠ .delivered)
      (claimResults environment store owner leaseSeconds limit) := by
  unfold claimResults
  split
  · split
    · exact transaction_transacts fun _ _ => claimResultsBody_keeps
    · exact ⟨le_refl _, Or.inl ⟨⟨_, rfl⟩, rfl⟩⟩
  · exact ⟨le_refl _, Or.inl ⟨⟨_, rfl⟩, rfl⟩⟩

theorem reapResults_transacts :
    Transacts store (fun _ next => store.tables.Keeps next.tables)
      (reapResults environment store) :=
  transaction_transacts fun _ _ => ensures_bind (ensures_tables (ensures_bind (ensures_modify
    (ensures_pure (store.tables.keeps_reap _)))))

theorem ResultsCall.keeps (call : ResultsCall)
    (own : ∀ resultId executionId result kernelRevision maxAttempts,
      call ≠ .receive resultId executionId result kernelRevision maxAttempts) :
    store.tables.Keeps (call.apply environment store).tables := by
  cases call with
  | receive resultId executionId result kernelRevision maxAttempts =>
    exact absurd rfl (own resultId executionId result kernelRevision maxAttempts)
  | reap =>
    exact reapResults_transacts.keeps fun _ _ keeps => keeps
  | claim owner leaseSeconds limit =>
    exact claimResults_transacts.keeps fun _ _ done => done.1
  | acknowledge resultId leaseId fence =>
    dsimp only [ResultsCall.apply, acknowledgeResult]
    split
    · exact (transaction_transacts fun _ _ => acknowledgeResultBody_keeps).keeps
        fun _ _ keeps => keeps
    · exact store.tables.keeps_refl
  | retry resultId expectedRevision =>
    dsimp only [ResultsCall.apply, retryResult]
    split
    · exact (transaction_transacts fun _ _ => retryResultBody_keeps).keeps fun _ _ keeps => keeps
    · exact store.tables.keeps_refl

theorem claimResults_undelivered {limit : ℕ} {claims : List ResultClaim}
    (answered : (claimResults environment store owner leaseSeconds limit).1 = .ok claims)
    (delivered : row.state = .delivered) (stored : row ∈ store.tables.rows) :
    ∀ claim ∈ claims, claim.resultId ≠ row.resultId := by
  intro claim member same
  have transacts : Transacts store _ (claimResults environment store owner leaseSeconds limit) :=
    claimResults_transacts
  obtain ⟨⟨failure, failed⟩, -⟩ | ⟨handed, after, done, -, told | ⟨failure, failed⟩⟩ :=
    transacts.outcome
  · rw [answered] at failed
    cases failed
  · obtain rfl : claims = handed := Except.ok.inj (answered.symm.trans told)
    exact done.2 claim member row (by rw [same]; exact find?_key stored) delivered
  · rw [answered] at failed
    cases failed

end Operations
/-! ### What the kernel's outbox does between acknowledgements -/

/-- The facts of a delivery stay, and it has not been acknowledged. -/
structure Onward (row later : Delivery) : Prop where
  resultId : later.resultId = row.resultId
  executionId : later.executionId = row.executionId
  result : later.result = row.result
  unacknowledged : later.state = .delivered → row.state = .delivered

theorem Onward.refl (row : Delivery) : Onward row row := ⟨rfl, rfl, rfl, id⟩

theorem Onward.trans {first second third : Delivery} (left : Onward first second)
    (right : Onward second third) : Onward first third :=
  ⟨right.resultId.trans left.resultId, right.executionId.trans left.executionId,
    right.result.trans left.result, left.unacknowledged ∘ right.unacknowledged⟩

/-- Every delivery goes on unacknowledged, and a new one is not delivered. -/
abbrev Forwards (before after : ResultOutbox) : Prop :=
  Rowwise Onward (fun row => row.state ≠ .delivered) before after

theorem Forwards.trans {first second third : ResultOutbox} (left : Forwards first second)
    (right : Forwards second third) : Forwards first third :=
  Rowwise.trans (fun early late => early.trans late)
    (fun open_ onward delivered => open_ (onward.unacknowledged delivered)) left right

theorem forwards_refl (outbox : ResultOutbox) : Forwards outbox outbox :=
  Rowwise.refl Onward.refl outbox

theorem forwards_follow (outbox : ResultOutbox) (stored : List OutboxRow) :
    Forwards outbox (followResults outbox stored) := by
  induction stored generalizing outbox with
  | nil => exact forwards_refl outbox
  | cons row rest hypothesis =>
    refine Forwards.trans ?_ (hypothesis _)
    dsimp only
    split
    · exact forwards_refl outbox
    · rename_i absent
      refine Rowwise.insert Onward.refl ?_ nofun
      exact Option.not_isSome_iff_eq_none.mp absent

theorem forwards_reap (outbox : ResultOutbox) (timestamp : Timestamp) :
    Forwards outbox (outbox.reap timestamp) := by
  refine Rowwise.update fun row _ => ?_
  split
  · refine ⟨rfl, rfl, rfl, fun delivered => ?_⟩
    unfold Delivery.reaped at delivered
    dsimp only at delivered
    split at delivered <;> cases delivered
  · exact .refl row

theorem forwards_sweep (outbox : ResultOutbox) (timestamp : Timestamp) :
    Forwards outbox (outbox.sweep timestamp) := by
  refine Rowwise.update fun row _ => ?_
  split
  · exact ⟨rfl, rfl, rfl, nofun⟩
  · exact .refl row

variable {outbox next : ResultOutbox}

theorem claimOutbox_forwards {arithmetic : FloatArithmetic} {owner uuid : Identifier} {leaseSeconds : Timestamp} {found : Option Delivery}
    (accepted : outbox.claimOutbox arithmetic owner leaseSeconds uuid timestamp =
      .ok (next, found)) : Forwards outbox next ∧ ∀ delivery ∈ found, delivery ∈ next := by
  unfold ResultOutbox.claimOutbox at accepted
  simp only [passes_iff] at accepted
  obtain ⟨_, accepted⟩ := accepted
  have swept := (forwards_reap outbox timestamp).trans (forwards_sweep _ timestamp)
  split at accepted
  · cases accepted
    exact ⟨forwards_refl outbox, by rintro _ ⟨⟩⟩
  · split at accepted
    · cases accepted
      exact ⟨swept, by rintro _ ⟨⟩⟩
    · rename_i row first
      obtain ⟨expires, _, answered⟩ := bind_eq_ok.mp accepted
      cases answered
      refine ⟨swept.trans (Rowwise.put Onward.refl (due_eq_some first).1 rfl
        ⟨rfl, rfl, rfl, by rintro ⟨⟩⟩), ?_⟩
      rintro _ ⟨⟩
      exact mem_put.mpr (.inl rfl)

theorem retryResultOutbox_forwards {expectedRevision : ℕ} {record : Delivery}
    (accepted : outbox.retryResultOutbox resultId expectedRevision timestamp =
      .ok (next, record)) : Forwards outbox next := by
  obtain ⟨row, found, _, _, _, _, ⟨rfl, _⟩ | ⟨_, rfl, _⟩⟩ := retryResultOutbox_eq_ok accepted
  · exact forwards_refl _
  · exact Rowwise.put Onward.refl (mem_of_find? found) rfl ⟨rfl, rfl, rfl, nofun⟩

/-! ### The invariant of the hand-off -/

namespace HandOff

/-- The delivery is in the outbox with these facts. -/
def Known (state : HandOff) (delivery : Delivery) : Prop :=
  ∃ row ∈ state.outbox, row.resultId = delivery.resultId ∧
    row.executionId = delivery.executionId ∧ row.result = delivery.result

/-- The execution has ended with the result of the delivery, at a revision. -/
def Ended (state : HandOff) (delivery : Delivery) (revision : ℕ) : Prop :=
  ∃ row, state.kernel.database.executions.find? delivery.executionId = some row ∧
    row.state.terminal = true ∧ row.revision = revision ∧
      ∃ result ∈ row.result, result.toDict.encode = delivery.result.toDict.encode

/-- The SDK holds the result of the delivery at the terminal revision of the execution. -/
def Held (state : HandOff) (delivery : Delivery) : Prop :=
  ∃ row ∈ state.store.tables.rows, ∃ revision, state.Ended delivery revision ∧
    row.States delivery.resultId delivery.executionId delivery.result.toDict revision

/-- What is certain of a delivery that a pump is working on. -/
def Certain (state : HandOff) : Pump → Prop
  | .claimed delivery => state.Known delivery
  | .verified delivery snapshot => state.Known delivery ∧
      delivery.result.resultId = delivery.resultId ∧
      delivery.result.executionId = delivery.executionId ∧ state.Ended delivery snapshot.revision
  | .committed delivery => state.Known delivery ∧
      delivery.result.resultId = delivery.resultId ∧ state.Held delivery

structure Sound (state : HandOff) : Prop where
  kernel : ExecutionKernel.kernel.Reachable state.kernel
  one : state.store.tables.OnePerExecution
  pumps : ∀ pump ∈ state.pumps, state.Certain pump
  delivered : ∀ delivery ∈ state.outbox, delivery.state = .delivered → state.Held delivery

/-- Nothing certain is lost from one state to another. -/
structure Grows (before after : HandOff) : Prop where
  kernel : ExecutionKernel.kernel.Run before.kernel after.kernel
  outbox : ∀ row ∈ before.outbox, ∃ later ∈ after.outbox, later.resultId = row.resultId ∧
    later.executionId = row.executionId ∧ later.result = row.result
  store : ∀ row ∈ before.store.tables.rows, ∃ later ∈ after.store.tables.rows, row.Keeps later

variable {before after : HandOff} {delivery : Delivery}

section

variable (grows : Grows before after)

include grows

theorem Grows.known (known : before.Known delivery) : after.Known delivery := by
  obtain ⟨row, member, resultId, executionId, result⟩ := known
  obtain ⟨later, kept, named, ofExecution, fact⟩ := grows.outbox row member
  exact ⟨later, kept, named.trans resultId, ofExecution.trans executionId, fact.trans result⟩

section

variable (reachable : ExecutionKernel.kernel.Reachable before.kernel)

include reachable

theorem Grows.ended {revision : ℕ} (ended : before.Ended delivery revision) :
    after.Ended delivery revision := by
  obtain ⟨row, found, terminal, fact⟩ := ended
  exact ⟨row, (ended_stays reachable grows.kernel found terminal).1, terminal, fact⟩

theorem Grows.held (held : before.Held delivery) : after.Held delivery := by
  obtain ⟨row, member, revision, ended, states⟩ := held
  obtain ⟨later, kept, keeps⟩ := grows.store row member
  exact ⟨later, kept, revision, grows.ended reachable ended, states.keeps keeps⟩

theorem Grows.certain {pump : Pump} (certain : before.Certain pump) : after.Certain pump := by
  cases pump with
  | claimed delivery => exact grows.known certain
  | verified delivery snapshot =>
    obtain ⟨known, resultId, executionId, ended⟩ := certain
    exact ⟨grows.known known, resultId, executionId, grows.ended reachable ended⟩
  | committed delivery =>
    obtain ⟨known, resultId, held⟩ := certain
    exact ⟨grows.known known, resultId, grows.held reachable held⟩

end

end

end HandOff
namespace HandOff

variable {arithmetic : FloatArithmetic} {before after : HandOff}

theorem outbox_refl (state : HandOff) : ∀ row ∈ state.outbox, ∃ later ∈ state.outbox,
    later.resultId = row.resultId ∧ later.executionId = row.executionId ∧
      later.result = row.result :=
  fun row member => ⟨row, member, rfl, rfl, rfl⟩

theorem store_refl (state : HandOff) :
    ∀ row ∈ state.store.tables.rows, ∃ later ∈ state.store.tables.rows, row.Keeps later :=
  fun row member => ⟨row, member, .refl row⟩

theorem outbox_forwards (forwards : Forwards outbox next) :
    ∀ row ∈ outbox, ∃ later ∈ next, later.resultId = row.resultId ∧
      later.executionId = row.executionId ∧ later.result = row.result := by
  intro row member
  obtain ⟨later, kept, _, onward⟩ := forwards.forward row member
  exact ⟨later, kept, onward.resultId, onward.executionId, onward.result⟩

theorem store_keeps {results next : Results} {fresh : ResultRow → Prop}
    (keeps : Rowwise ResultRow.Keeps fresh results.rows next.rows) :
    ∀ row ∈ results.rows, ∃ later ∈ next.rows, row.Keeps later := by
  intro row member
  obtain ⟨later, kept, _, same⟩ := keeps.forward row member
  exact ⟨later, kept, same⟩

theorem receive_grows (environment : Environment) (store : Store Results)
    (resultId executionId : Identifier) (result : Json) (kernelRevision maxAttempts : ℕ) :
    ∀ row ∈ store.tables.rows, ∃ later ∈ (receiveResult environment store resultId executionId
      result kernelRevision maxAttempts).2.tables.rows, row.Keeps later := by
  rcases receiveResult_receives environment store resultId executionId result kernelRevision
    maxAttempts with ⟨same, _⟩ | receives
  · intro row member
    rw [same]
    exact ⟨row, member, .refl row⟩
  · exact store_keeps receives.rowwise

theorem Step.grows (step : Step arithmetic before after) : Grows before after := by
  cases step with
  | kernel operation environment =>
    exact ⟨.single ⟨operation, environment, rfl⟩, outbox_forwards (forwards_follow _ _),
      store_refl before⟩
  | reap timestamp => exact ⟨.refl, outbox_forwards (forwards_reap _ timestamp), store_refl before⟩
  | reopen resultId expectedRevision timestamp outbox record accepted =>
    exact ⟨.refl, outbox_forwards (retryResultOutbox_forwards accepted), store_refl before⟩
  | idle owner leaseSeconds uuid timestamp outbox accepted =>
    exact ⟨.refl, outbox_forwards (claimOutbox_forwards accepted).1, store_refl before⟩
  | claim owner leaseSeconds uuid timestamp outbox delivery accepted =>
    exact ⟨.refl, outbox_forwards (claimOutbox_forwards accepted).1, store_refl before⟩
  | verify earlier rest delivery snapshot working read agrees =>
    exact ⟨.refl, outbox_refl before, store_refl before⟩
  | commit earlier rest delivery snapshot maxAttempts environment working answered =>
    exact ⟨.refl, outbox_refl before, receive_grows _ _ _ _ _ _ _⟩
  | abort earlier rest delivery snapshot maxAttempts environment working =>
    exact ⟨.refl, outbox_refl before, receive_grows _ _ _ _ _ _ _⟩
  | acknowledge earlier rest delivery leaseId timestamp outbox record working leased accepted =>
    refine ⟨.refl, fun row member => ?_, store_refl before⟩
    obtain ⟨stored, found, _, ⟨_, rfl, _⟩ | ⟨_, rfl, _⟩⟩ := ackOutbox_eq_ok accepted
    · exact ⟨row, member, rfl, rfl, rfl⟩
    · by_cases same : row.resultId = stored.resultId
      · have equal : row = stored := eq_of_key_eq member (mem_of_find? found) same
        exact ⟨stored.acknowledged timestamp, mem_put.mpr (.inl rfl), same.symm, equal ▸ rfl,
          equal ▸ rfl⟩
      · exact ⟨row, mem_put.mpr (.inr ⟨member, same⟩), rfl, rfl, rfl⟩
  | crash earlier rest pump working => exact ⟨.refl, outbox_refl before, store_refl before⟩
  | apply call environment own =>
    exact ⟨.refl, outbox_refl before, store_keeps (call.keeps own)⟩
  | register generations => exact ⟨.refl, outbox_refl before, store_refl before⟩

theorem verified_ended {state : HandOff} {delivery : Delivery} {snapshot : ExecutionSnapshot}
    (reachable : ExecutionKernel.kernel.Reachable state.kernel)
    (read : kernelGet state.kernel delivery.result.executionId = .ok snapshot)
    (agrees : checkDelivery snapshot delivery = .ok ()) :
    delivery.result.resultId = delivery.resultId ∧
      delivery.result.executionId = delivery.executionId ∧
      state.Ended delivery snapshot.revision := by
  obtain ⟨row, found, decoded⟩ := bind_eq_ok.mp read
  obtain ⟨lease, _, made⟩ := bind_eq_ok.mp decoded
  have fields := ExecutionSnapshot.make_fields made
  have executionId : snapshot.executionId = row.executionId :=
    congrArg SnapshotFields.executionId fields
  have result : snapshot.result = row.result := congrArg SnapshotFields.result fields
  have revision : snapshot.revision = row.revision := congrArg SnapshotFields.revision fields
  obtain ⟨⟨answer, answers, equal⟩, sameExecution, sameResult, _⟩ := check_eq_ok.mp agrees
  have stored := present_eq_ok.mp found
  have named : row.executionId = delivery.result.executionId := key_of_find? stored
  have own : delivery.result.executionId = delivery.executionId :=
    named.symm.trans (executionId.symm.trans sameExecution)
  have formed := formed_kept.holds reachable stored
  rw [result] at answers
  refine ⟨sameResult, own, row, own ▸ stored, ?_, revision.symm, answer, answers, equal⟩
  exact formed.ended.mp (Option.isSome_iff_exists.mpr ⟨answer, answers⟩)

end HandOff
namespace HandOff

variable {arithmetic : FloatArithmetic} {before after : HandOff}

variable {earlier rest pumps : List Pump}

variable {pump : Pump}

theorem mem_working {old : Pump} (working : pumps = earlier ++ old :: rest)
    (member : pump ∈ earlier ++ rest) : pump ∈ pumps := by
  rw [working, mem_append, mem_cons]
  rcases mem_append.mp member with first | last
  · exact .inl first
  · exact .inr (.inr last)

theorem mem_replaced {old new : Pump} (working : pumps = earlier ++ old :: rest)
    (member : pump ∈ earlier ++ new :: rest) : pump = new ∨ pump ∈ pumps := by
  rcases mem_append.mp member with first | last
  · exact .inr (mem_working working (mem_append.mpr (.inl first)))
  · rcases mem_cons.mp last with same | old
    · exact .inl same
    · exact .inr (mem_working working (mem_append.mpr (.inr old)))

variable {state : HandOff}

theorem certain_working (sound : state.Sound)
    (working : state.pumps = earlier ++ pump :: rest) : state.Certain pump :=
  sound.pumps pump (working ▸ mem_append_right earlier mem_cons_self)

theorem delivered_forwards (sound : before.Sound) (grows : Grows before after)
    (forwards : Forwards before.outbox after.outbox) :
    ∀ delivery ∈ after.outbox, delivery.state = .delivered → after.Held delivery := by
  intro delivery member delivered
  rcases forwards.backward delivery member with ⟨row, stored, _, onward⟩ | ⟨_, open_⟩
  · obtain ⟨held, kept, revision, ended, states⟩ :=
      grows.held sound.kernel (sound.delivered row stored (onward.unacknowledged delivered))
    refine ⟨held, kept, revision, ?_, ?_⟩
    · unfold Ended at ended ⊢
      rw [onward.executionId, onward.result]
      exact ended
    · rw [onward.resultId, onward.executionId, onward.result]
      exact states
  · exact absurd delivered open_

theorem Step.sound (sound : before.Sound) (step : Step arithmetic before after) : after.Sound := by
  have grows := step.grows
  have kernel := Library.TransitionSystem.Reachable.run sound.kernel grows.kernel
  have stays : ∀ pump ∈ before.pumps, after.Certain pump := fun pump member =>
    grows.certain sound.kernel (sound.pumps pump member)
  cases step with
  | kernel operation environment =>
    exact ⟨kernel, sound.one, stays, delivered_forwards sound grows (forwards_follow _ _)⟩
  | reap timestamp =>
    exact ⟨kernel, sound.one, stays, delivered_forwards sound grows (forwards_reap _ timestamp)⟩
  | reopen resultId expectedRevision timestamp outbox record accepted =>
    exact ⟨kernel, sound.one, stays,
      delivered_forwards sound grows (retryResultOutbox_forwards accepted)⟩
  | idle owner leaseSeconds uuid timestamp outbox accepted =>
    exact ⟨kernel, sound.one, stays,
      delivered_forwards sound grows (claimOutbox_forwards accepted).1⟩
  | claim owner leaseSeconds uuid timestamp outbox delivery accepted =>
    obtain ⟨forwards, handed⟩ := claimOutbox_forwards accepted
    refine ⟨kernel, sound.one, fun pump member => ?_, delivered_forwards sound grows forwards⟩
    rcases mem_cons.mp member with rfl | old
    · exact ⟨delivery, handed delivery rfl, rfl, rfl, rfl⟩
    · exact stays pump old
  | verify earlier rest delivery snapshot working read agrees =>
    refine ⟨kernel, sound.one, fun pump member => ?_,
      delivered_forwards sound grows (forwards_refl _)⟩
    rcases mem_replaced working member with rfl | old
    · exact ⟨certain_working sound working, verified_ended sound.kernel read agrees⟩
    · exact stays pump old
  | commit earlier rest delivery snapshot maxAttempts environment working answered =>
    have received := receiveResult_receives environment before.store delivery.result.resultId
      delivery.result.executionId delivery.result.toDict snapshot.revision maxAttempts
    rcases received with ⟨_, failed⟩ | receives
    · exact absurd answered failed
    · refine ⟨kernel, receives.onePerExecution sound.one, fun pump member => ?_,
        delivered_forwards sound grows (forwards_refl _)⟩
      rcases mem_replaced working member with rfl | old
      · obtain ⟨known, resultId, executionId, ended⟩ := certain_working sound working
        obtain ⟨row, stored, states⟩ := receives.states
        rw [resultId, executionId] at states
        exact ⟨known, resultId, row, stored, snapshot.revision, ended, states⟩
      · exact stays pump old
  | abort earlier rest delivery snapshot maxAttempts environment working =>
    refine ⟨kernel, ?_, fun pump member => stays pump (mem_working working member),
      delivered_forwards sound grows (forwards_refl _)⟩
    rcases receiveResult_receives environment before.store delivery.result.resultId
      delivery.result.executionId delivery.result.toDict snapshot.revision maxAttempts
      with ⟨same, _⟩ | receives
    · dsimp only
      rw [same]
      exact sound.one
    · exact receives.onePerExecution sound.one
  | acknowledge earlier rest delivery leaseId timestamp outbox record working leased accepted =>
    refine ⟨kernel, sound.one, fun pump member => stays pump (mem_working working member), ?_⟩
    obtain ⟨known, resultId, held⟩ := certain_working sound working
    intro row member delivered
    obtain ⟨stored, found, _, ⟨_, rfl, _⟩ | ⟨_, rfl, _⟩⟩ := ackOutbox_eq_ok accepted
    · exact sound.delivered row member delivered
    · rcases mem_put.mp member with rfl | ⟨old, _⟩
      · -- The row that is acknowledged has the facts of the pump's delivery.
        obtain ⟨same, kept, named, ofExecution, fact⟩ := known
        have own : same.resultId = stored.resultId :=
          named.trans (resultId.symm.trans (key_of_find? found).symm)
        obtain rfl : same = stored := eq_of_key_eq kept (mem_of_find? found) own
        obtain ⟨holder, holds, revision, ended, states⟩ := held
        refine ⟨holder, holds, revision, ?_, ?_⟩
        · unfold Ended at ended ⊢
          rw [← ofExecution, ← fact] at ended
          exact ended
        · rw [← named, ← ofExecution, ← fact] at states
          exact states
      · exact sound.delivered row old delivered
  | crash earlier rest pump working =>
    exact ⟨kernel, sound.one, fun pump member => stays pump (mem_working working member),
      delivered_forwards sound grows (forwards_refl _)⟩
  | apply call environment own =>
    exact ⟨kernel, sound.one.keeps (call.keeps own), stays,
      delivered_forwards sound grows (forwards_refl _)⟩
  | register generations =>
    exact ⟨kernel, sound.one, stays, delivered_forwards sound grows (forwards_refl _)⟩

theorem sound (reachable : (handOff arithmetic).Reachable state) : state.Sound := by
  refine reachable.invariant Sound ?_ fun _ _ _ sound step => Step.sound sound step
  rintro state ⟨⟨storeId, initial⟩, emptyOutbox, emptyStore, idle⟩
  refine ⟨.start ⟨storeId, initial⟩, ?_, ?_, ?_⟩
  · intro left member
    rw [emptyStore] at member
    cases member
  · rw [idle]
    rintro pump ⟨⟩
  · rw [emptyOutbox]
    rintro delivery ⟨⟩

theorem keeps {last : HandOff} (reachable : (handOff arithmetic).Reachable state)
    (run : (handOff arithmetic).Run state last) :
    ∀ row ∈ state.store.tables.rows, ∃ later ∈ last.store.tables.rows, row.Keeps later := by
  refine reachable.respects (fun state last =>
    ∀ row ∈ state.store.tables.rows, ∃ later ∈ last.store.tables.rows, row.Keeps later)
    store_refl ?_ (fun _ _ _ step => (Step.grows step).store) run
  intro first second third early late row member
  obtain ⟨middle, stored, keeps⟩ := early row member
  obtain ⟨final, kept, further⟩ := late middle stored
  exact ⟨final, kept, keeps.trans further⟩

/-- However the parties interleave and wherever a pump stops: a result is delivered only if the SDK
holds it at the terminal revision of its execution, no stored fact is altered, and what the
application has acknowledged is handed out by no later claim. -/
theorem results_handed_off {state : HandOff} (reachable : (handOff arithmetic).Reachable state) :
    (∀ delivery ∈ state.outbox, delivery.state = .delivered →
      ∃ row ∈ state.store.tables.rows, ∃ execution,
        state.kernel.database.executions.find? delivery.executionId = some execution ∧
          execution.state.terminal = true ∧ row.resultId = delivery.resultId ∧
          row.executionId = delivery.executionId ∧
          row.result.encode = delivery.result.toDict.encode ∧
          row.kernelRevision = execution.revision) ∧
    (∀ left ∈ state.store.tables.rows, ∀ right ∈ state.store.tables.rows,
      left.resultId = right.resultId ∨ left.executionId = right.executionId → left = right) ∧
    (∀ last, (handOff arithmetic).Run state last → ∀ row ∈ state.store.tables.rows,
      ∃ later ∈ last.store.tables.rows, row.Keeps later) ∧
    (∀ last, (handOff arithmetic).Run state last → ∀ row ∈ state.store.tables.rows,
      row.state = .delivered → row ∈ last.store.tables.rows ∧
        ∀ environment owner leaseSeconds limit claims,
          (claimResults environment last.store owner leaseSeconds limit).1 = .ok claims →
            ∀ claim ∈ claims, claim.resultId ≠ row.resultId) := by
  refine ⟨fun delivery member delivered => ?_, fun left leftMember right rightMember same => ?_,
    fun last run => keeps reachable run, fun last run row member delivered => ?_⟩
  · obtain ⟨row, stored, revision, ⟨execution, found, terminal, current, _⟩, states⟩ :=
      (sound reachable).delivered delivery member delivered
    exact ⟨row, stored, execution, found, terminal, states.resultId, states.executionId,
      states.result, states.kernelRevision.trans current.symm⟩
  · rcases same with named | ofExecution
    · exact eq_of_key_eq leftMember rightMember named
    · exact (sound reachable).one left leftMember right rightMember ofExecution
  · obtain ⟨later, kept, keeps⟩ := keeps reachable run row member
    have same := keeps.delivered delivered
    subst same
    exact ⟨kept, fun environment owner leaseSeconds limit claims answered =>
      claimResults_undelivered answered delivered kept⟩

/-- New stores, between which nothing has been handed off yet. -/
def fresh : HandOff := ⟨.initial sampleName, ∅, ⟨⟨∅, fun _ => none⟩, 0⟩, []⟩

/-- The stores after an operation of the kernel. -/
def afterKernel (state : HandOff)
    (call : ExecutionKernel.Operation × ExecutionKernel.Environment) : HandOff :=
  { state with
    kernel := call.1.apply call.2 state.kernel
    outbox := followResults state.outbox (call.1.apply call.2 state.kernel).database.resultOutbox.rows }

/-- The stores after a command has been cancelled, the first call of whose submitter came through. -/
theorem results_handed_off_sample :
    let state := sampleCancelling.foldl afterKernel fresh
    (state.outbox.rows.map (·.state) = [.pending]) ∧
      ∀ delivery ∈ state.outbox, delivery.state = .delivered →
        ∃ row ∈ state.store.tables.rows, row.resultId = delivery.resultId := by
  have first : (handOff .exact).Reachable fresh := .start ⟨⟨sampleName, rfl⟩, rfl, rfl, rfl⟩
  have cancelled : (handOff .exact).Reachable (sampleCancelling.foldl afterKernel fresh) :=
    (first.next (.kernel _ _)).next (.kernel _ _)
  refine ⟨by decide +kernel, fun delivery member delivered => ?_⟩
  obtain ⟨row, stored, _, _, _, same, _⟩ :=
    (results_handed_off cancelled).1 delivery member delivered
  exact ⟨row, stored, same⟩

end HandOff
end DispatcherSdk.Orchestrator
