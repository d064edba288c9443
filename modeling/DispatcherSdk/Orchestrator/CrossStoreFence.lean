/-
This file settles when a cancellation fence of a Run in two stores completes.

The Kernel takes the epoch of a fence from its own control; the orchestrator takes the fence over
only if that epoch is later than its own or the Run is paused there already. A pause that has
begun in the orchestrator's store alone has moved its epoch to the very one that the fence will
get, while the Run is not paused.
-/

import DispatcherSdk.Orchestrator.CrossStoreMoves

namespace DispatcherSdk.Orchestrator

open Library Library.Checked Table List
open ExecutionKernel (ControlState Identifier KernelError maxSqliteInteger)

namespace CrossStores

/-! ### The invariant -/

/-- Both stores are consistent, each in itself and with the other. -/
structure Consistent (runId : Identifier) (origin : ManagedControl) (stores : CrossStores) :
    Prop where
  kernelRun : stores.kernel.runId = runId
  storeRun : stores.store.runId = runId
  bounded : stores.kernel.control.generation ≤ maxSqliteInteger
  committed : stores.kernel.control ∈ stores.committed
  reached : ∀ control ∈ stores.committed, control.epoch ≤ stores.kernel.control.epoch ∧
    control.generation ≤ stores.kernel.control.generation
  receipts : ∀ receipt ∈ stores.kernel.receipts, receipt.runId = runId →
    receipt.controlEpoch = receipt.expectedEpoch + 1 ∧
    receipt.expectedEpoch < maxSqliteInteger ∧
    receipt.controlEpoch ≤ stores.kernel.control.epoch ∧
    (receipt.fact = .cancellationFence →
      (⟨.paused, receipt.controlEpoch, receipt.generation⟩ : ManagedControl) ∈ stores.committed)
  current : stores.store.transitions.getLast?.map ControlEntry.control = some stores.store.control
  latest : ∀ entry ∈ stores.store.transitions, entry.control.epoch ≤ stores.store.control.epoch
  ordered : stores.store.transitions.Pairwise fun earlier later =>
    earlier.control.epoch < later.control.epoch
  explained : ∀ entry ∈ stores.store.transitions, stores.Explains origin entry
  shown : ∀ entry ∈ stores.store.transitions, entry.control.state ≠ .pausing →
    entry.control ∈ stores.committed
  behind : stores.store.control.generation ≤ stores.kernel.control.generation
  fences : ∀ row ∈ stores.store.fences, stores.Fenced row

variable {runId : Identifier} {origin : ManagedControl} {stores next : CrossStores}

theorem Consistent.start {running : Bool} {revision : ℕ}
    (bounded : origin.generation ≤ maxSqliteInteger) :
    Consistent runId origin (start runId origin running revision) := by
  have only {entry : ControlEntry} (listed : entry ∈ [(⟨origin, .registered⟩ : ControlEntry)]) :
      entry = ⟨origin, .registered⟩ := by simpa using listed
  exact
    { kernelRun := rfl
      storeRun := rfl
      bounded
      committed := mem_singleton_self _
      reached := fun control listed => by
        cases mem_singleton.mp listed
        exact ⟨le_refl _, le_refl _⟩
      receipts := fun _ stored => nomatch stored
      current := rfl
      latest := fun entry listed => by
        cases only listed
        exact le_refl _
      ordered := pairwise_singleton _ _
      explained := fun entry listed => by
        cases only listed
        exact rfl
      shown := fun entry listed _ => by
        cases only listed
        exact mem_singleton_self _
      behind := le_refl _
      fences := fun _ stored => nomatch stored }

theorem Consistent.advances (consistent : Consistent runId origin stores) {kernel : KernelGate}
    (advances : stores.kernel.Advances kernel) :
    Consistent runId origin (stores.kernelCommits kernel) where
  kernelRun := advances.sameRun.trans consistent.kernelRun
  storeRun := consistent.storeRun
  bounded := advances.bounded consistent.bounded
  committed := mem_append_right _ (mem_singleton_self _)
  reached control listed := by
    rcases mem_append.mp listed with before | added
    · have old := consistent.reached control before
      exact ⟨old.1.trans advances.epoch, old.2.trans advances.generation⟩
    · cases mem_singleton.mp added
      exact ⟨le_refl _, le_refl _⟩
  receipts receipt stored own := by
    rcases advances.fresh receipt stored with before | other | attests
    · obtain ⟨next, bounded, reached, fenced⟩ := consistent.receipts receipt before own
      exact ⟨next, bounded, reached.trans advances.epoch,
        fun fencing => mem_append_left _ (fenced fencing)⟩
    · exact absurd (own.trans consistent.kernelRun.symm) other
    · refine ⟨attests.next, attests.bounded, le_of_eq attests.reached, fun fencing => ?_⟩
      rw [← attests.fenced fencing]
      exact mem_append_right _ (mem_singleton_self _)
  current := consistent.current
  latest := consistent.latest
  ordered := consistent.ordered
  explained entry listed := (consistent.explained entry listed).mono (.refl _) advances.resumes
  shown entry listed resting := mem_append_left _ (consistent.shown entry listed resting)
  behind := consistent.behind.trans advances.generation
  fences row stored :=
    (consistent.fences row stored).mono rfl advances.epoch
      (fun _ kept => mem_of_find? (advances.receipts _ _ (find?_key kept))) (le_refl _)

theorem Consistent.writes (consistent : Consistent runId origin stores)
    (writes : stores.Writes next origin) : Consistent runId origin next := by
  have explained : ∀ entry ∈ stores.store.transitions, next.Explains origin entry :=
    fun entry listed => (consistent.explained entry listed).mono writes.keeps
      fun receipt stored => writes.kernel ▸ stored
  have base : next.kernel.runId = runId ∧ next.store.runId = runId :=
    ⟨writes.kernel ▸ consistent.kernelRun, writes.sameRun.trans consistent.storeRun⟩
  rcases writes.moves with ⟨control, transitions⟩ | ⟨entry, inserts⟩
  · exact
      { kernelRun := base.1
        storeRun := base.2
        bounded := writes.kernel ▸ consistent.bounded
        committed := by rw [writes.kernel, writes.committed]; exact consistent.committed
        reached := by rw [writes.kernel, writes.committed]; exact consistent.reached
        receipts := by rw [writes.kernel, writes.committed]; exact consistent.receipts
        current := by rw [control, transitions]; exact consistent.current
        latest := by rw [control, transitions]; exact consistent.latest
        ordered := by rw [transitions]; exact consistent.ordered
        explained := by rw [transitions]; exact explained
        shown := by rw [transitions, writes.committed]; exact consistent.shown
        behind := by rw [control, writes.kernel]; exact consistent.behind
        fences := writes.fences consistent.fences }
  · have listed {other : ControlEntry} (member : other ∈ next.store.transitions) :
        other ∈ stores.store.transitions ∨ other = entry := by
      rw [inserts.transitions] at member
      simpa using member
    have later {other : ControlEntry} (member : other ∈ stores.store.transitions) :
        other.control.epoch < entry.control.epoch :=
      (consistent.latest other member).trans_lt inserts.later
    exact
      { kernelRun := base.1
        storeRun := base.2
        bounded := writes.kernel ▸ consistent.bounded
        committed := by rw [writes.kernel, writes.committed]; exact consistent.committed
        reached := by rw [writes.kernel, writes.committed]; exact consistent.reached
        receipts := by rw [writes.kernel, writes.committed]; exact consistent.receipts
        current := by
          rw [inserts.transitions, inserts.control, List.getLast?_concat]
          rfl
        latest := fun other member => by
          rw [inserts.control]
          rcases listed member with before | rfl
          · exact (later before).le
          · exact le_refl _
        ordered := by
          rw [inserts.transitions, pairwise_append]
          refine ⟨consistent.ordered, pairwise_singleton _ _, ?_⟩
          intro other before last added
          cases mem_singleton.mp added
          exact later before
        explained := fun other member => by
          rcases listed member with before | rfl
          · exact explained other before
          · exact inserts.explained
        shown := fun other member resting => by
          rw [writes.committed]
          rcases listed member with before | rfl
          · exact consistent.shown other before resting
          · exact inserts.shown resting
        behind := by
          rw [inserts.control, writes.kernel]
          by_cases pausing : entry.control.state = .pausing
          · rw [inserts.pausing pausing]
            exact consistent.behind
          · exact (consistent.reached _ (inserts.shown pausing)).2
        fences := writes.fences consistent.fences }

/-! ### Steps -/

theorem Step.cases (consistent : Consistent runId origin stores) (step : stores.Step next) :
    (∃ kernel, stores.kernel.Advances kernel ∧ next = stores.kernelCommits kernel) ∨
      stores.Writes next origin := by
  have reached {control : ManagedControl} (shown : control ∈ stores.committed) :
      control.epoch ≤ stores.kernel.control.epoch := (consistent.reached control shown).1
  cases step with
  | prepareControlPause answered =>
    exact .inl ⟨_, KernelGate.prepareControlPause_advances answered, rfl⟩
  | completeControlPause answered =>
    exact .inl ⟨_, KernelGate.completeControlPause_advances answered, rfl⟩
  | installRevisionDecision answered =>
    exact .inl ⟨_, KernelGate.installRevisionDecision_advances answered, rfl⟩
  | activateRevision answered =>
    exact .inl ⟨_, KernelGate.activateRevision_advances answered, rfl⟩
  | resumeRevision answered =>
    exact .inl ⟨_, KernelGate.resumeRevision_advances answered, rfl⟩
  | fenceCancelledRun answered =>
    exact .inl ⟨_, KernelGate.fenceCancelledRun_advances answered, rfl⟩
  | otherReceipt other fresh => exact .inl ⟨_, .otherReceipt other fresh, rfl⟩
  | beginPause begun => exact .inr (beginCrossStorePause_writes begun)
  | beginAdopted begun => exact .inr (beginAdoptedCrossStorePause_writes begun)
  | advancePause _ recorded => exact .inr (advanceCrossStorePause_writes recorded)
  | completePause _ recorded => exact .inr (completeCrossStorePauseParticipant_writes recorded)
  | preparePause _ prepared => exact .inr (prepareCrossStorePause_writes prepared)
  | finalizePause shown finalized => exact .inr (finalizeCrossStorePause_writes shown finalized)
  | commitRevision _ decided => exact .inr (commitCrossStoreRevision_writes decided)
  | installRevision _ recorded => exact .inr (installCrossStoreRevision_writes recorded)
  | installProjection shown installed =>
    exact .inr (installCrossStoreProjection_writes shown installed)
  | intendActivation intended => exact .inr (intendActivation_writes intended)
  | activate _ activated => exact .inr (activateCrossStoreRevision_writes activated)
  | intendResume intended => exact .inr (intendResume_writes intended)
  | resume answered shown resumed =>
    exact .inr (resumeCrossStoreRevision_writes answered shown resumed)
  | recordFence shown recorded => exact .inr (recordFence_writes (reached shown) recorded)
  | readjustFence shown => exact .inr (readjustFence_writes _ (reached shown))
  | settleFence called answered settled =>
    refine Or.inr (settleFence_writes consistent.fences called answered ?_ settled)
    intro own fencing
    exact (consistent.receipts _ answered (own.trans consistent.storeRun)).2.2.2 fencing
  | revise => exact .inr (.still (.same rfl rfl rfl) rfl rfl rfl rfl)

theorem Consistent.step (consistent : Consistent runId origin stores)
    (step : stores.Step next) : Consistent runId origin next := by
  rcases step.cases consistent with ⟨kernel, advances, rfl⟩ | writes
  · exact consistent.advances advances
  · exact consistent.writes writes

end CrossStores

theorem crossStores_consistent {runId : Identifier} {origin : ManagedControl}
    {stores : CrossStores} (reachable : (crossStores runId origin).Reachable stores) :
    stores.Consistent runId origin := by
  refine reachable.invariant (CrossStores.Consistent runId origin) ?_ ?_
  · rintro _ ⟨-, bounded, running, revision, rfl⟩
    exact .start bounded
  · intro stores next _ consistent step
    exact consistent.step step

namespace CrossStores

/-! ### Agreement -/

variable {runId : Identifier} {origin : ManagedControl} {stores next : CrossStores}

theorem Explains.unique {left right : ControlEntry} (leftExplained : stores.Explains origin left)
    (rightExplained : stores.Explains origin right) (same : left.cause = right.cause) :
    left.control = right.control := by
  rcases left with ⟨leftControl, cause⟩
  rcases right with ⟨rightControl, rightCause⟩
  cases same
  cases cause with
  | registered => exact leftExplained.trans rightExplained.symm
  | pausing operationId =>
    obtain ⟨row, found, leftMoved⟩ := leftExplained
    obtain ⟨other, again, rightMoved⟩ := rightExplained
    cases found.symm.trans again
    exact leftMoved.trans rightMoved.symm
  | paused operationId =>
    obtain ⟨row, found, -, leftMoved⟩ := leftExplained
    obtain ⟨other, again, -, rightMoved⟩ := rightExplained
    cases found.symm.trans again
    exact leftMoved.trans rightMoved.symm
  | installed operationId =>
    obtain ⟨row, found, -, -, leftMoved⟩ := leftExplained
    obtain ⟨other, again, -, -, rightMoved⟩ := rightExplained
    cases found.symm.trans again
    exact leftMoved.trans rightMoved.symm
  | resumed operationId =>
    obtain ⟨row, found, -, -, leftMoved, -⟩ := leftExplained
    obtain ⟨other, again, -, -, rightMoved, -⟩ := rightExplained
    cases found.symm.trans again
    exact leftMoved.trans rightMoved.symm
  | fenced operationId =>
    obtain ⟨-, row, found, leftWritten⟩ := leftExplained
    obtain ⟨-, other, again, rightWritten⟩ := rightExplained
    cases found.symm.trans again
    exact Option.some.inj (leftWritten.symm.trans rightWritten)

/-- The orchestrator was made active by a resume of a revision that both stores had installed and
that the Kernel had resumed. -/
def Resumed (stores : CrossStores) (entry : ControlEntry) : Prop :=
  ∃ decision ∈ stores.store.decisions, entry.cause = .resumed decision.operationId ∧
    decision.kernelInstalled = true ∧ decision.orchestratorInstalled = true ∧
    entry.control = ⟨.active, decision.sourceEpoch + 2, decision.targetGeneration⟩ ∧
    ∃ receipt ∈ stores.kernel.resumes, receipt.decisionId = decision.operationId ∧
      receipt.generation = entry.control.generation ∧
      receipt.expectedEpoch + 1 = entry.control.epoch

/-- The stores agree on the control of the Run. -/
structure Agree (origin : ManagedControl) (stores : CrossStores) : Prop where
  /-- The control row is the one of the last transition. -/
  current : stores.store.transitions.getLast?.map ControlEntry.control = some stores.store.control
  /-- The orchestrator was paused only where the Kernel was paused. -/
  paused : ∀ entry ∈ stores.store.transitions, entry.control.state = .paused →
    entry.control ∈ stores.committed
  /-- The orchestrator was active only where the Kernel was active, after a resume. -/
  active : ∀ entry ∈ stores.store.transitions, entry.control.state = .active →
    entry.control ∈ stores.committed ∧
      (entry = ⟨origin, .registered⟩ ∨ stores.Resumed entry)
  /-- The generation is one that the Kernel had reached. -/
  generation : stores.store.control.generation ≤ stores.kernel.control.generation ∧
    stores.kernel.control ∈ stores.committed
  increasing : stores.store.transitions.Pairwise fun earlier later =>
    earlier.control.epoch < later.control.epoch
  /-- Nothing took effect twice. -/
  once : (stores.store.transitions.map ControlEntry.cause).Nodup

theorem Consistent.agree (consistent : Consistent runId origin stores) : stores.Agree origin where
  current := consistent.current
  paused entry listed paused := consistent.shown entry listed (by rw [paused]; nofun)
  active entry listed active := by
    refine ⟨consistent.shown entry listed (by rw [active]; nofun), ?_⟩
    have explained := consistent.explained entry listed
    rcases entry with ⟨control, cause⟩
    cases cause with
    | registered =>
      have registered : control = origin := explained
      exact .inl (by rw [registered])
    | pausing operationId =>
      obtain ⟨row, -, moved⟩ := explained
      cases (congrArg ManagedControl.state moved).symm.trans active
    | paused operationId =>
      obtain ⟨row, -, -, moved⟩ := explained
      cases (congrArg ManagedControl.state moved).symm.trans active
    | installed operationId =>
      obtain ⟨row, -, -, -, moved⟩ := explained
      cases (congrArg ManagedControl.state moved).symm.trans active
    | resumed operationId =>
      obtain ⟨row, found, kernel, orchestrator, moved, receipt⟩ := explained
      obtain rfl := key_of_find? found
      exact .inr ⟨row, mem_of_find? found, rfl, kernel, orchestrator, moved, receipt⟩
    | fenced operationId => cases explained.1.symm.trans active
  generation := ⟨consistent.behind, consistent.committed⟩
  increasing := consistent.ordered
  once := by
    unfold List.Nodup
    rw [pairwise_map]
    refine consistent.ordered.imp_of_mem ?_
    intro earlier later earlierListed laterListed before same
    have equal := (consistent.explained earlier earlierListed).unique
      (consistent.explained later laterListed) same
    rw [equal] at before
    exact lt_irrefl _ before

end CrossStores

/-- The control agreement of two stores: whatever the order in which the calls of the orchestrator
commit to either store, and wherever each of them ends, the orchestrator's store agrees with the
Kernel's, and it becomes paused or active only where the Kernel has been before. -/
theorem crossStores_agree {runId : Identifier} {origin : ManagedControl} {stores : CrossStores}
    (reachable : (crossStores runId origin).Reachable stores) :
    stores.Agree origin ∧
    ∀ next, (crossStores runId origin).step stores next →
      next.store.control ≠ stores.store.control → next.store.control.state ≠ .pausing →
      next.store.control ∈ stores.committed := by
  have consistent := crossStores_consistent reachable
  refine ⟨consistent.agree, fun next step changed resting => ?_⟩
  rcases CrossStores.Step.cases consistent step with ⟨kernel, -, rfl⟩ | writes
  · exact absurd rfl changed
  · rcases writes.moves with ⟨same, -⟩ | ⟨entry, inserts⟩
    · exact absurd same changed
    · rw [inserts.control] at resting ⊢
      exact inserts.shown resting
def sampleStores : CrossStores :=
  .start ExecutionKernel.sampleName ⟨.active, 1, 0⟩ true 0

theorem crossStores_agree_sample : ∃ stores : CrossStores,
    stores.store.control = ⟨.paused, 3, 0⟩ ∧ stores.Agree ⟨.active, 1, 0⟩ := by
  let name := ExecutionKernel.sampleName
  let barrier : ControlReceipt := ⟨name, name, 0, 1, 2, .pauseBarrier⟩
  let completion : ControlReceipt := ⟨localPausedId name, name, 0, 2, 3, .localPaused name⟩
  have start : (crossStores name ⟨.active, 1, 0⟩).Reachable sampleStores :=
    .start ⟨by decide, by decide, true, 0, rfl⟩
  have begun := start.next (@CrossStores.Step.beginPause _ name 0 1 _ rfl)
  have barred := begun.next (@CrossStores.Step.prepareControlPause _ false name 1 0 _ _ rfl)
  have advanced := barred.next
    (@CrossStores.Step.advancePause _ name barrier _ mem_cons_self rfl)
  have closed := advanced.next
    (@CrossStores.Step.completeControlPause _ (localPausedId name) name 2 0 _ _ rfl)
  have completed := closed.next
    (@CrossStores.Step.completePause _ name completion _ mem_cons_self rfl)
  have paused {control : ManagedControl} {earlier : List ManagedControl} :
      control ∈ earlier ++ [control] := mem_append_right _ (mem_singleton_self _)
  have prepared := completed.next
    (@CrossStores.Step.preparePause _ name ⟨.paused, 3, 0⟩ _ paused rfl)
  have finalized := prepared.next
    (@CrossStores.Step.finalizePause _ name ⟨.paused, 3, 0⟩ _ paused rfl)
  exact ⟨_, rfl, (crossStores_agree finalized).1⟩

open ExecutionKernel (ControlState Identifier KernelError maxSqliteInteger)

/-! ### The call -/

/-- How far a call of `fence_cross_store_cancellation` has come. -/
inductive FencePhase where
  | called
  /-- The Kernel is asked to move `kernelEpoch`, after so many conflicts. -/
  | raising (conflicts kernelEpoch generation : ℕ)
  | raised (kernelEpoch generation : ℕ) (receipt : ControlReceipt)
  | returned
  | refused

namespace KernelGate

variable {gate : KernelGate} {operationId : Identifier} {expectedEpoch generation : ℕ}

section

variable (ranged : generation ≤ maxSqliteInteger)

include ranged

section

variable (bounded : expectedEpoch < maxSqliteInteger)

include bounded

theorem fenceCancelledRun_fresh (fresh : gate.receipts.find? operationId = none)
    (current : gate.control.generation = generation ∧ gate.control.epoch = expectedEpoch) :
    gate.fenceCancelledRun operationId expectedEpoch generation =
      .ok (gate.receiptFor operationId expectedEpoch generation .cancellationFence,
        gate.commit .paused
          (gate.receiptFor operationId expectedEpoch generation .cancellationFence)) := by
  simp [fenceCancelledRun, checkRange, check, replay, receiptFor, ranged, bounded, fresh, current,
    bind, Except.bind, pure, Except.pure]

theorem fenceCancelledRun_again (answered : gate.receipts.find? operationId =
      some (gate.receiptFor operationId expectedEpoch generation .cancellationFence)) :
    gate.fenceCancelledRun operationId expectedEpoch generation =
      .ok (gate.receiptFor operationId expectedEpoch generation .cancellationFence, gate) := by
  simp only [receiptFor] at answered
  simp [fenceCancelledRun, checkRange, check, replay, receiptFor, ranged, bounded, answered,
    bind, Except.bind, pure, Except.pure]

theorem fenceCancelledRun_conflicts
    (moved : gate.receipts.find? operationId = none → gate.control.epoch ≠ expectedEpoch)
    (other : gate.receipts.find? operationId ≠
      some (gate.receiptFor operationId expectedEpoch generation .cancellationFence)) :
    ∃ message, gate.fenceCancelledRun operationId expectedEpoch generation =
      .error (.casConflict message) := by
  cases found : gate.receipts.find? operationId with
  | none =>
    simp [fenceCancelledRun, checkRange, check, replay, receiptFor, ranged, bounded, found,
      moved found, bind, Except.bind]
  | some receipt =>
    rw [found] at other
    have differs : receipt ≠
        gate.receiptFor operationId expectedEpoch generation .cancellationFence :=
      fun same => other (congrArg some same)
    simp only [receiptFor] at differs
    simp [fenceCancelledRun, checkRange, check, replay, receiptFor, ranged, bounded, found,
      differs, bind, Except.bind]

end

end

theorem fenceCancelledRun_beyond (gate : KernelGate) (operationId : Identifier)
    (ranged : generation ≤ maxSqliteInteger) (beyond : ¬ expectedEpoch < maxSqliteInteger) :
    gate.fenceCancelledRun operationId expectedEpoch generation =
      .error (.value "invalid control epoch") := by
  simp [fenceCancelledRun, checkRange, check, ranged, beyond, bind, Except.bind]

end KernelGate

namespace CrossStores

variable (operationId : Identifier)

/-- The next transaction of `fence_cross_store_cancellation`, when no other call intervenes and the
host refuses nothing. -/
def fence : CrossStores × FencePhase → CrossStores × FencePhase
  | (stores, .called) =>
    match stores.store.recordFence operationId stores.kernel.control with
    | .ok (kernelEpoch, store) =>
      ({ stores with store }, .raising 0 kernelEpoch stores.kernel.control.generation)
    | .error _ => (stores, .refused)
  | (stores, .raising conflicts kernelEpoch generation) =>
    match stores.kernel.fenceCancelledRun operationId kernelEpoch generation with
    | .ok (receipt, kernel) =>
      (stores.kernelCommits kernel, .raised kernelEpoch generation receipt)
    | .error failure =>
      if failure.kind = .casConflict ∧ conflicts ≠ 2 ∧
          stores.kernel.control.generation = generation then
        ({ stores with
            store := stores.store.readjustFence operationId stores.kernel.control },
          .raising (conflicts + 1) stores.kernel.control.epoch generation)
      else (stores, .refused)
  | (stores, .raised kernelEpoch generation receipt) =>
    match stores.store.settleFence operationId generation kernelEpoch receipt with
    | .ok store => ({ stores with store }, .returned)
    | .error _ => (stores, .refused)
  | (stores, .returned) => (stores, .returned)
  | (stores, .refused) => (stores, .refused)

/-- A call that ends after so many transactions, be it that the process dies. -/
def fenceUntil (transactions : ℕ) (stores : CrossStores) : CrossStores :=
  ((fence operationId)^[transactions] (stores, .called)).1

/-- The call is made again and again, and each time it ends somewhere. -/
inductive Retried (stores : CrossStores) : CrossStores → Prop
  | first : Retried stores stores
  | again {later : CrossStores} (retried : Retried stores later) (transactions : ℕ) :
      Retried stores (fenceUntil operationId transactions later)

/-- A call returns, and leaves both stores paused at one epoch with both receipts recorded. -/
def Completes (stores : CrossStores) : Prop :=
  ∃ last, (fence operationId)^[6] (stores, .called) = (last, .returned) ∧
    last.store.control.state = .paused ∧ last.kernel.control.state = .paused ∧
    last.store.control.epoch = last.kernel.control.epoch ∧
    ∃ row, last.store.fences.find? operationId = some row ∧
      row.kernelReceipt.isSome ∧ row.orchestratorReceipt.isSome

/-- Where the fence of an operation gets through: it is new to the Kernel and the orchestrator's
store is not ahead; or it has fenced the Kernel, nothing has moved the Kernel since, and the store
is behind it or has taken it over. -/
def Fenceable (stores : CrossStores) : Prop :=
  (∀ row ∈ stores.store.fences.find? operationId,
    row.generation = stores.store.control.generation) ∧
  match stores.kernel.receipts.find? operationId with
  | none =>
    stores.kernel.control.epoch < maxSqliteInteger ∧
      stores.store.control.epoch ≤ stores.kernel.control.epoch
  | some receipt =>
    ∃ row ∈ stores.store.fences.find? operationId,
      receipt = stores.kernel.receiptFor operationId row.kernelEpoch
        stores.kernel.control.generation .cancellationFence ∧
      stores.kernel.control = ⟨.paused, receipt.controlEpoch, stores.kernel.control.generation⟩ ∧
      (stores.store.control.epoch < receipt.controlEpoch ∨
        stores.store.control =
          ⟨.paused, receipt.controlEpoch, stores.kernel.control.generation⟩)

/-! ### One transaction -/

section Transactions

variable {operationId : Identifier} {runId : Identifier} {origin : ManagedControl}
  {stores : CrossStores}

/-- What is known at each phase of a call. -/
def Knows (operationId : Identifier) (stores : CrossStores) : FencePhase → Prop
  | .called => True
  | .raising conflicts kernelEpoch generation =>
    conflicts ≤ 2 ∧ generation = stores.kernel.control.generation ∧
      (conflicts ≠ 0 → kernelEpoch = stores.kernel.control.epoch) ∧
      ∃ row, stores.store.fences.find? operationId = some row ∧
        row.generation = generation ∧ row.kernelEpoch = kernelEpoch
  | .raised kernelEpoch generation receipt =>
    generation = stores.kernel.control.generation ∧
      stores.kernel.receipts.find? operationId = some receipt ∧
      receipt = stores.kernel.receiptFor operationId kernelEpoch generation .cancellationFence ∧
      ∃ row, stores.store.fences.find? operationId = some row ∧
        row.generation = generation ∧ row.kernelEpoch = kernelEpoch
  | .returned => ∃ row receipt, stores.store.fences.find? operationId = some row ∧
      row.kernelReceipt.isSome ∧ row.orchestratorReceipt.isSome ∧
      stores.kernel.receipts.find? operationId = some receipt ∧
      stores.store.control = ⟨.paused, receipt.controlEpoch, stores.kernel.control.generation⟩ ∧
      (stores.Fenceable operationId ↔ stores.kernel.control =
        ⟨.paused, receipt.controlEpoch, stores.kernel.control.generation⟩)
  | .refused => ¬ stores.Fenceable operationId

/-- Both stores are consistent and at one generation, and the call is where it says it is. -/
structure Sound (runId : Identifier) (origin : ManagedControl) (operationId : Identifier)
    (call : CrossStores × FencePhase) : Prop where
  consistent : call.1.Consistent runId origin
  level : call.1.store.control.generation = call.1.kernel.control.generation
  knows : call.1.Knows operationId call.2

section

variable (consistent : Consistent runId origin stores)

include consistent

theorem Consistent.expected_lt {receipt : ControlReceipt} {expectedEpoch generation : ℕ}
    {fact : ControlFact} (found : stores.kernel.receipts.find? operationId = some receipt)
    (shape : receipt = stores.kernel.receiptFor operationId expectedEpoch generation fact) :
    expectedEpoch < stores.kernel.control.epoch ∧ expectedEpoch < maxSqliteInteger := by
  have own : receipt.runId = runId := by
    rw [shape]
    exact consistent.kernelRun
  obtain ⟨-, bounded, reached, -⟩ := consistent.receipts receipt (mem_of_find? found) own
  rw [shape] at bounded reached
  exact ⟨reached, bounded⟩

theorem Consistent.resting (resting : stores.store.control.state ≠ .pausing) :
    stores.store.control.epoch ≤ stores.kernel.control.epoch := by
  have last := consistent.current
  cases listed : stores.store.transitions.getLast? with
  | none =>
    rw [listed] at last
    cases last
  | some entry =>
    rw [listed] at last
    have control : entry.control = stores.store.control := Option.some.inj last
    have member := List.mem_of_getLast? listed
    have shown := consistent.shown entry member (control ▸ resting)
    rw [control] at shown
    exact (consistent.reached _ shown).1

theorem Consistent.unanswered {row : FenceRow}
    (found : stores.store.fences.find? operationId = some row)
    (missing : stores.kernel.receipts.find? operationId ≠
      some (stores.kernel.receiptFor operationId row.kernelEpoch row.generation
        .cancellationFence)) :
    row.kernelReceipt = none := by
  cases written : row.kernelReceipt with
  | none => rfl
  | some receipt =>
    obtain ⟨shape, stored, -, -⟩ :=
      (consistent.fences row (mem_of_find? found)).settled receipt written
    refine absurd (find?_eq_some_iff.mpr ⟨?_, ?_⟩) missing
    · have same : receipt = stores.kernel.receiptFor operationId row.kernelEpoch row.generation
          .cancellationFence := by
        rw [shape, key_of_find? found, consistent.storeRun, ← consistent.kernelRun]
        rfl
      exact same ▸ stored
    · rfl

theorem recordFence_sound
    (level : stores.store.control.generation = stores.kernel.control.generation) :
    Sound runId origin operationId (fence operationId (stores, .called)) ∧
      ((fence operationId (stores, .called)).1.Fenceable operationId ↔
        stores.Fenceable operationId) := by
  cases recorded : stores.store.recordFence operationId stores.kernel.control with
  | error failure =>
    simp only [fence, recorded]
    refine ⟨⟨consistent, level, ?_⟩, trivial⟩
    simp only [ControlStore.recordFence, check, if_pos level] at recorded
    split at recorded
    · cases recorded
    · rename_i row found
      rintro ⟨generation, -⟩
      have own := (consistent.fences row (mem_of_find? found)).own
      rw [found] at generation
      have same := generation row rfl
      simp [own, same, bind, Except.bind, pure, Except.pure] at recorded
  | ok answer =>
    rcases answer with ⟨kernelEpoch, store⟩
    have kept : Consistent runId origin { stores with store } :=
      consistent.writes (recordFence_writes (le_refl _) recorded)
    simp only [fence, recorded]
    simp only [ControlStore.recordFence, bind_eq_ok, check_eq_ok, exists_const]
      at recorded
    obtain ⟨-, recorded⟩ := recorded
    split at recorded
    · rename_i fresh
      cases recorded
      refine ⟨⟨kept, level, by simp, rfl, by simp, _, find?_put_same _ _, level, rfl⟩, ?_⟩
      simp only [Fenceable, find?_put_same, fresh]
      cases answered : stores.kernel.receipts.find? operationId with
      | none => simp
      | some receipt =>
        have never : receipt ≠ stores.kernel.receiptFor operationId stores.kernel.control.epoch
            stores.kernel.control.generation .cancellationFence := fun shape =>
          lt_irrefl _ (consistent.expected_lt answered shape).1
        simp [never]
    · rename_i row found
      simp only [passes_iff] at recorded
      obtain ⟨⟨-, generation⟩, rfl, ⟨⟩⟩ := recorded
      exact ⟨⟨consistent, level, by simp, rfl, by simp, row, found, generation.trans level, rfl⟩,
        Iff.rfl⟩

end

variable {row : FenceRow}

theorem fenceable_unanswered (found : stores.store.fences.find? operationId = some row)
    (same : row.generation = stores.store.control.generation)
    (fresh : stores.kernel.receipts.find? operationId = none) :
    stores.Fenceable operationId ↔ stores.kernel.control.epoch < maxSqliteInteger ∧
      stores.store.control.epoch ≤ stores.kernel.control.epoch := by
  simp [Fenceable, found, same, fresh]

theorem fenceable_answered {receipt : ControlReceipt}
    (found : stores.store.fences.find? operationId = some row)
    (same : row.generation = stores.store.control.generation)
    (answered : stores.kernel.receipts.find? operationId = some receipt) :
    stores.Fenceable operationId ↔ receipt = stores.kernel.receiptFor operationId row.kernelEpoch
        stores.kernel.control.generation .cancellationFence ∧
      stores.kernel.control = ⟨.paused, receipt.controlEpoch, stores.kernel.control.generation⟩ ∧
      (stores.store.control.epoch < receipt.controlEpoch ∨
        stores.store.control =
          ⟨.paused, receipt.controlEpoch, stores.kernel.control.generation⟩) := by
  simp [Fenceable, found, same, answered]

theorem fenceable_raised (found : stores.store.fences.find? operationId = some row)
    (same : row.generation = stores.store.control.generation) :
    (stores.kernelCommits (stores.kernel.commit .paused (stores.kernel.receiptFor operationId
        row.kernelEpoch row.generation .cancellationFence))).Fenceable operationId ↔
      stores.store.control.epoch < row.kernelEpoch + 1 ∨
        stores.store.control = ⟨.paused, row.kernelEpoch + 1, row.generation⟩ := by
  have answered : (stores.kernelCommits (stores.kernel.commit .paused
      (stores.kernel.receiptFor operationId row.kernelEpoch row.generation
        .cancellationFence))).kernel.receipts.find? operationId = some _ := find?_put_same _ _
  refine (@fenceable_answered operationId (stores.kernelCommits _) row _ found same answered).trans
    ⟨fun fenced => fenced.2.2, fun taken => ⟨rfl, rfl, taken⟩⟩

variable {conflicts : ℕ}

section

variable (consistent : Consistent runId origin stores)
  (level : stores.store.control.generation = stores.kernel.control.generation) (few : conflicts ≤ 2)
  (current : conflicts ≠ 0 → row.kernelEpoch = stores.kernel.control.epoch)
  (found : stores.store.fences.find? operationId = some row)
  (same : row.generation = stores.kernel.control.generation)

include consistent level few current found same

theorem conflict_sound (bounded : row.kernelEpoch < maxSqliteInteger)
    (moved : stores.kernel.receipts.find? operationId = none →
      stores.kernel.control.epoch ≠ row.kernelEpoch)
    (other : stores.kernel.receipts.find? operationId ≠
      some (stores.kernel.receiptFor operationId row.kernelEpoch row.generation
        .cancellationFence)) :
    Sound runId origin operationId
        (fence operationId (stores, .raising conflicts row.kernelEpoch row.generation)) ∧
      ((fence operationId (stores, .raising conflicts row.kernelEpoch row.generation)).1.Fenceable
          operationId ↔ stores.Fenceable operationId) := by
  obtain ⟨message, refused⟩ :=
    KernelGate.fenceCancelledRun_conflicts (same ▸ consistent.bounded) bounded moved other
  have differs {receipt : ControlReceipt}
      (answered : stores.kernel.receipts.find? operationId = some receipt) :
      ¬ stores.Fenceable operationId := by
    rw [fenceable_answered found (same.trans level.symm) answered]
    rintro ⟨shape, -⟩
    rw [answered, same] at other
    exact other (congrArg some shape)
  by_cases last : conflicts = 2
  · have gone : fence operationId (stores, .raising conflicts row.kernelEpoch row.generation) =
        (stores, .refused) := by
      simp [fence, refused, last]
    rw [gone]
    refine ⟨⟨consistent, level, ?_⟩, Iff.rfl⟩
    cases answered : stores.kernel.receipts.find? operationId with
    | none => exact absurd (current (by rw [last]; nofun)).symm (moved answered)
    | some receipt => exact differs answered
  · have unanswered := consistent.unanswered found other
    have goes : fence operationId (stores, .raising conflicts row.kernelEpoch row.generation) =
        ({ stores with
            store := stores.store.readjustFence operationId stores.kernel.control },
          .raising (conflicts + 1) stores.kernel.control.epoch row.generation) := by
      simp only [fence, refused]
      exact if_pos ⟨rfl, last, same.symm⟩
    have kept : Consistent runId origin
        { stores with store := stores.store.readjustFence operationId stores.kernel.control } :=
      consistent.writes (readjustFence_writes operationId (le_refl _))
    have adjusted : stores.store.readjustFence operationId stores.kernel.control =
        { stores.store with
          fences := stores.store.fences.put
            { row with kernelEpoch := stores.kernel.control.epoch } } := by
      simp [ControlStore.readjustFence, found, unanswered]
    obtain rfl := key_of_find? found
    rw [goes]
    rw [adjusted] at kept ⊢
    refine ⟨⟨kept, level, by omega, same, fun _ => rfl, _, find?_put_same _ _, rfl, rfl⟩, ?_⟩
    cases answered : stores.kernel.receipts.find? row.operationId with
    | none =>
      rw [fenceable_unanswered found (same.trans level.symm) answered]
      exact fenceable_unanswered (find?_put_same _ _) (same.trans level.symm) answered
    | some receipt =>
      refine iff_of_false (fun fenceable => ?_) (differs answered)
      obtain ⟨generation, again⟩ := fenceable
      rw [answered] at again
      obtain ⟨other, stored, shape, -⟩ := again
      cases (find?_put_same _ _).symm.trans stored
      exact lt_irrefl _ (consistent.expected_lt answered shape).1

theorem raiseFence_sound :
    Sound runId origin operationId
        (fence operationId (stores, .raising conflicts row.kernelEpoch row.generation)) ∧
      ((fence operationId (stores, .raising conflicts row.kernelEpoch row.generation)).1.Fenceable
          operationId ↔ stores.Fenceable operationId) := by
  have expected : row.kernelEpoch ≤ stores.kernel.control.epoch :=
    (consistent.fences row (mem_of_find? found)).epoch
  have ranged : row.generation ≤ maxSqliteInteger := same ▸ consistent.bounded
  have level_ : row.generation = stores.store.control.generation := same.trans level.symm
  by_cases bounded : row.kernelEpoch < maxSqliteInteger
  · cases answered : stores.kernel.receipts.find? operationId with
    | none =>
      by_cases reached : stores.kernel.control.epoch = row.kernelEpoch
      · -- The Kernel is fenced now.
        have raised := KernelGate.fenceCancelledRun_fresh ranged bounded answered
          ⟨same.symm, reached⟩
        have kept := consistent.advances (KernelGate.fenceCancelledRun_advances raised)
        simp only [fence, raised]
        refine ⟨⟨kept, level_.symm, rfl, find?_put_same _ _, rfl, row, found, rfl, rfl⟩, ?_⟩
        rw [fenceable_unanswered found level_ answered, fenceable_raised found level_]
        constructor
        · rintro (behind | paused)
          · exact ⟨reached ▸ bounded, by omega⟩
          · have ahead := consistent.resting (by rw [paused]; nofun)
            rw [paused, reached] at ahead
            exact absurd ahead (Nat.not_succ_le_self _)
        · rintro ⟨-, behind⟩
          exact .inl (by omega)
      · exact conflict_sound consistent level few current found same bounded
          (fun _ => reached) (by rw [answered]; nofun)
    | some receipt =>
      by_cases shape : receipt = stores.kernel.receiptFor operationId row.kernelEpoch
          row.generation .cancellationFence
      · -- The Kernel was fenced before.
        have raised := KernelGate.fenceCancelledRun_again ranged bounded (shape ▸ answered)
        have kept := consistent.advances (KernelGate.fenceCancelledRun_advances raised)
        simp only [fence, raised]
        exact ⟨⟨kept, level, same, shape ▸ answered, rfl, row, found, rfl, rfl⟩, Iff.rfl⟩
      · refine conflict_sound consistent level few current found same bounded
          (fun fresh => ?_) (fun again => ?_)
        · cases fresh.symm.trans answered
        · exact shape (Option.some.inj (answered.symm.trans again))
  · -- The Kernel cannot count so far.
    have refused := KernelGate.fenceCancelledRun_beyond stores.kernel operationId ranged bounded
    simp only [fence, refused]
    refine ⟨⟨consistent, level, ?_⟩, Iff.rfl⟩
    cases answered : stores.kernel.receipts.find? operationId with
    | none =>
      refine fun fenceable => bounded ?_
      have within := ((fenceable_unanswered found level_ answered).mp fenceable).1
      omega
    | some receipt =>
      refine fun fenceable => bounded ?_
      have shape := ((fenceable_answered found level_ answered).mp fenceable).1
      exact (consistent.expected_lt answered shape).2

end

def fencedControl (row : FenceRow) : ManagedControl :=
  ⟨.paused, row.kernelEpoch + 1, row.generation⟩

variable {receipt : ControlReceipt}

theorem settleFence_succeeds
    (found : stores.store.fences.find? operationId = some row) (fenced : stores.Fenced row)
    (same : row.generation = stores.store.control.generation)
    (shape : receipt = ⟨operationId, stores.store.runId, row.generation, row.kernelEpoch,
      row.kernelEpoch + 1, .cancellationFence⟩)
    (takes : stores.store.control.epoch < row.kernelEpoch + 1 ∨
      stores.store.control = fencedControl row) :
    ∃ store, stores.store.settleFence operationId row.generation row.kernelEpoch receipt =
      .ok store := by
  have reached : stores.store.control.epoch ≤ row.kernelEpoch + 1 := by
    rcases takes with behind | control
    · exact behind.le
    · rw [control]
      exact le_refl _
  subst shape
  cases written : row.kernelReceipt with
  | none =>
    have paused : stores.store.control.epoch < row.kernelEpoch + 1 ∨
        stores.store.control.state = .paused := by
      refine takes.imp_right fun control => ?_
      rw [control]
      rfl
    have allowed := paused.imp_left Nat.le_of_lt_succ
    simp [ControlStore.settleFence, check, present, found, ← same, reached, paused, allowed, bind,
      Except.bind, fenced.unsettled written, pure, Except.pure]
  | some receipt =>
    obtain ⟨shape, -, recorded, held⟩ := fenced.settled receipt written
    have control : stores.store.control = fencedControl row := by
      refine takes.resolve_left (not_lt.mpr ?_)
      rw [shape] at held
      exact held
    rw [key_of_find? found] at shape
    subst shape
    simp [ControlStore.settleFence, check, present, found, bind, Except.bind, written, recorded,
      control, fencedControl, pure, Except.pure]

theorem settleFence_leaves {store : ControlStore}
    (found : stores.store.fences.find? operationId = some row)
    (same : row.generation = stores.store.control.generation)
    (settled : stores.store.settleFence operationId row.generation row.kernelEpoch receipt =
      .ok store) :
    (stores.store.control.epoch < row.kernelEpoch + 1 ∨
      stores.store.control = fencedControl row) ∧ store.control = fencedControl row ∧
    ∃ kept, store.fences.find? operationId = some kept ∧
      kept.generation = row.generation ∧ kept.kernelEpoch = row.kernelEpoch ∧
      kept.kernelReceipt.isSome ∧ kept.orchestratorReceipt.isSome := by
  simp only [ControlStore.settleFence, bind_eq_ok, check_eq_ok, present_eq_ok,
    exists_const] at settled
  obtain ⟨rfl, other, stored, ⟨-, -, reached⟩, settled⟩ := settled
  cases found.symm.trans stored
  obtain rfl := key_of_find? found
  split at settled
  · simp only [passes_iff] at settled
    obtain ⟨⟨kernel, orchestrator, control⟩, ⟨⟩⟩ := settled
    exact ⟨Or.inr control, control, row, found, rfl, rfl, by rw [kernel]; rfl,
      by rw [orchestrator]; rfl⟩
  · simp only [passes_iff] at settled
    obtain ⟨takes, ⟨⟩⟩ := settled
    by_cases behind : stores.store.control.epoch < row.kernelEpoch + 1
    · simp only [if_pos behind]
      exact ⟨Or.inl behind, rfl, _, find?_put_same _ _, rfl, rfl, rfl, rfl⟩
    · simp only [if_neg behind]
      have control : stores.store.control = fencedControl row := by
        have paused := takes.resolve_left behind
        have epoch : stores.store.control.epoch = row.kernelEpoch + 1 :=
          le_antisymm reached (not_lt.mp behind)
        show stores.store.control = ⟨.paused, row.kernelEpoch + 1, row.generation⟩
        rw [← paused, ← epoch, same]
      exact ⟨Or.inr control, control, _, find?_put_same _ _, rfl, rfl, rfl, rfl⟩

theorem settleFence_sound (consistent : Consistent runId origin stores)
    (level : stores.store.control.generation = stores.kernel.control.generation)
    (found : stores.store.fences.find? operationId = some row)
    (same : row.generation = stores.kernel.control.generation)
    (answered : stores.kernel.receipts.find? operationId =
      some (stores.kernel.receiptFor operationId row.kernelEpoch row.generation
        .cancellationFence)) :
    let call := fence operationId (stores, .raised row.kernelEpoch row.generation
      (stores.kernel.receiptFor operationId row.kernelEpoch row.generation .cancellationFence))
    Sound runId origin operationId call ∧
      (call.1.Fenceable operationId ↔ stores.Fenceable operationId) := by
  intro call
  have level_ : row.generation = stores.store.control.generation := same.trans level.symm
  have fenced := consistent.fences row (mem_of_find? found)
  have spec := fenceable_answered found level_ answered
  rw [same] at spec
  cases settled : stores.store.settleFence operationId row.generation row.kernelEpoch
      (stores.kernel.receiptFor operationId row.kernelEpoch row.generation
        .cancellationFence) with
  | error failure =>
    have refused : call = (stores, .refused) := by
      simp only [call, fence, settled]
    rw [refused]
    refine ⟨⟨consistent, level, fun fenceable => ?_⟩, Iff.rfl⟩
    have takes := (spec.mp fenceable).2.2
    have shape : stores.kernel.receiptFor operationId row.kernelEpoch row.generation
        .cancellationFence = ⟨operationId, stores.store.runId, row.generation, row.kernelEpoch,
          row.kernelEpoch + 1, .cancellationFence⟩ := by
      rw [consistent.storeRun, ← consistent.kernelRun]
      rfl
    obtain ⟨store, taken⟩ := settleFence_succeeds found fenced level_ shape
      (by rw [fencedControl, same]; exact takes)
    cases settled.symm.trans taken
  | ok store =>
    have kept : Consistent runId origin { stores with store } := by
      refine consistent.writes (settleFence_writes consistent.fences
        ⟨row, mem_of_find? found, key_of_find? found, rfl⟩ (mem_of_find? answered) ?_ settled)
      intro own fencing
      exact (consistent.receipts _ (mem_of_find? answered)
        (own.trans consistent.storeRun)).2.2.2 fencing
    have returned : call = ({ stores with store }, .returned) := by
      simp only [call, fence, settled]
    obtain ⟨takes, control, last, stays, generation, epoch, kernel, orchestrator⟩ :=
      settleFence_leaves found level_ settled
    have paused : store.control =
        ⟨.paused, row.kernelEpoch + 1, stores.kernel.control.generation⟩ := by
      rw [control, fencedControl, same]
    have before : stores.Fenceable operationId ↔ stores.kernel.control =
        ⟨.paused, row.kernelEpoch + 1, stores.kernel.control.generation⟩ := by
      rw [spec]
      rw [fencedControl, same] at takes
      exact ⟨fun fenceable => fenceable.2.1, fun held => ⟨rfl, held, takes⟩⟩
    have after : Fenceable operationId { stores with store } ↔ stores.kernel.control =
        ⟨.paused, row.kernelEpoch + 1, stores.kernel.control.generation⟩ := by
      have level_ : last.generation = store.control.generation := by
        rw [generation, control, fencedControl]
      refine (@fenceable_answered operationId { stores with store } last _ stays level_
        answered).trans ?_
      rw [epoch, same]
      exact ⟨fun fenceable => fenceable.2.1, fun held => ⟨rfl, held, Or.inr paused⟩⟩
    rw [returned]
    refine ⟨⟨kept, by rw [paused], last, _, stays, kernel, orchestrator, answered, paused, after⟩,
      after.trans before.symm⟩

variable {call : CrossStores × FencePhase}

theorem fence_sound (sound : Sound runId origin operationId call) :
    Sound runId origin operationId (fence operationId call) ∧
      ((fence operationId call).1.Fenceable operationId ↔ call.1.Fenceable operationId) := by
  rcases call with ⟨stores, phase⟩
  have consistent : stores.Consistent runId origin := sound.consistent
  cases phase with
  | called => exact recordFence_sound consistent sound.level
  | raising conflicts kernelEpoch generation =>
    obtain ⟨few, same, current, row, found, rfl, rfl⟩ := sound.knows
    exact raiseFence_sound consistent sound.level few current found same
  | raised kernelEpoch generation receipt =>
    obtain ⟨same, answered, shape, row, found, rfl, rfl⟩ := sound.knows
    dsimp only at shape answered
    subst shape
    exact settleFence_sound consistent sound.level found same answered
  | returned => exact ⟨sound, Iff.rfl⟩
  | refused => exact ⟨sound, Iff.rfl⟩

/-! ### The whole call -/

theorem fences_sound (sound : Sound runId origin operationId call) (transactions : ℕ) :
    Sound runId origin operationId ((fence operationId)^[transactions] call) ∧
      (((fence operationId)^[transactions] call).1.Fenceable operationId ↔
        call.1.Fenceable operationId) := by
  induction transactions generalizing call with
  | zero => exact ⟨sound, Iff.rfl⟩
  | succ transactions hypothesis =>
    have once := fence_sound sound
    have rest := hypothesis once.1
    exact ⟨rest.1, rest.2.trans once.2⟩

/-- How many transactions a call has left at most. -/
def remaining : FencePhase → ℕ
  | .called => 5
  | .raising conflicts _ _ => 4 - conflicts
  | .raised _ _ _ => 1
  | .returned => 0
  | .refused => 0

theorem remaining_fence (sound : Sound runId origin operationId call) :
    remaining (fence operationId call).2 ≤ remaining call.2 - 1 := by
  rcases call with ⟨stores, phase⟩
  cases phase with
  | called =>
    unfold fence
    dsimp only
    split <;> simp [remaining]
  | raising conflicts kernelEpoch generation =>
    have few : conflicts ≤ 2 := sound.knows.1
    unfold fence
    dsimp only
    split
    · simp only [remaining]
      omega
    · split <;> simp only [remaining] <;> omega
  | raised kernelEpoch generation receipt =>
    unfold fence
    dsimp only
    split <;> simp [remaining]
  | returned => exact le_refl _
  | refused => exact le_refl _

theorem remaining_fences (sound : Sound runId origin operationId call) (transactions : ℕ) :
    remaining ((fence operationId)^[transactions] call).2 ≤ remaining call.2 - transactions := by
  induction transactions generalizing call with
  | zero => exact le_refl _
  | succ transactions hypothesis =>
    have once := remaining_fence sound
    have rest := hypothesis (fence_sound sound).1
    rw [Function.iterate_succ_apply]
    omega

theorem completes_iff (consistent : stores.Consistent runId origin)
    (level : stores.store.control.generation = stores.kernel.control.generation) :
    stores.Completes operationId ↔ stores.Fenceable operationId := by
  have begins : Sound runId origin operationId (stores, .called) := ⟨consistent, level, trivial⟩
  have sound := fences_sound begins 6
  have ended := remaining_fences begins 6
  unfold Completes
  rw [← sound.2]
  generalize (fence operationId)^[6] (stores, FencePhase.called) = call at sound ended ⊢
  rcases call with ⟨last, phase⟩
  cases phase with
  | called => simp [remaining] at ended
  | raising conflicts kernelEpoch generation =>
    have few : conflicts ≤ 2 := sound.1.knows.1
    simp only [remaining] at ended
    omega
  | raised kernelEpoch generation receipt => simp [remaining] at ended
  | refused =>
    refine iff_of_false ?_ sound.1.knows
    rintro ⟨other, same, -⟩
    cases same
  | returned =>
    obtain ⟨row, receipt, found, kernel, orchestrator, -, control, fenceable⟩ := sound.1.knows
    have level_ := sound.1.level
    dsimp only at found control fenceable level_ ⊢
    rw [fenceable]
    constructor
    · rintro ⟨other, same, -, paused, epoch, -⟩
      cases same
      rw [control] at epoch
      have epoch_ : receipt.controlEpoch = last.kernel.control.epoch := epoch
      rw [← paused, epoch_]
    · intro held
      refine ⟨last, rfl, ?_, ?_, ?_, row, found, kernel, orchestrator⟩
      · rw [control]
      · rw [held]
      · rw [control, held]

theorem retried_sound {later : CrossStores} (consistent : stores.Consistent runId origin)
    (level : stores.store.control.generation = stores.kernel.control.generation)
    (retried : Retried operationId stores later) :
    Sound runId origin operationId (later, .called) ∧
      (later.Fenceable operationId ↔ stores.Fenceable operationId) := by
  induction retried with
  | first => exact ⟨⟨consistent, level, trivial⟩, Iff.rfl⟩
  | again _ transactions hypothesis =>
    have sound := fences_sound hypothesis.1 transactions
    exact ⟨⟨sound.1.consistent, sound.1.level, trivial⟩, sound.2.trans hypothesis.2⟩

end Transactions

end CrossStores

/-- From any state that both stores can come to at one generation, the next call that is let through
to its end completes if and only if the fence could get through at the outset. So where it could
not, no retry ever completes. -/
theorem fence_completes_iff {runId : Identifier} {origin : ManagedControl}
    {stores retried : CrossStores} (reachable : (crossStores runId origin).Reachable stores)
    (level : stores.store.control.generation = stores.kernel.control.generation)
    (operationId : Identifier) (retries : stores.Retried operationId retried) :
    retried.Completes operationId ↔ stores.Fenceable operationId := by
  have sound := CrossStores.retried_sound (crossStores_consistent reachable) level retries
  exact (CrossStores.completes_iff sound.1.consistent sound.1.level).trans sound.2

theorem fence_completes_sample :
    (CrossStores.fenceUntil ExecutionKernel.sampleName 2 sampleStores).Completes
      ExecutionKernel.sampleName := by
  have start : (crossStores ExecutionKernel.sampleName ⟨.active, 1, 0⟩).Reachable sampleStores :=
    .start ⟨by decide, by decide, true, 0, rfl⟩
  refine (fence_completes_iff start rfl ExecutionKernel.sampleName (.again .first 2)).mpr ?_
  exact ⟨nofun, by decide, by decide⟩

/-- A pause has begun of which the Kernel does not know: a cancellation fence never completes,
however often it is retried. -/
theorem fence_stuck :
    ∃ stores, (crossStores ExecutionKernel.sampleName ⟨.active, 1, 0⟩).Reachable stores ∧
      stores.store.control.generation = stores.kernel.control.generation ∧
      ∀ operationId retried, stores.Retried operationId retried →
        ¬ retried.Completes operationId := by
  have start : (crossStores ExecutionKernel.sampleName ⟨.active, 1, 0⟩).Reachable sampleStores :=
    .start ⟨by decide, by decide, true, 0, rfl⟩
  have begun := start.next (@CrossStores.Step.beginPause _ ExecutionKernel.sampleName 0 1 _ rfl)
  refine ⟨_, begun, rfl, fun operationId retried retries completes => ?_⟩
  have sound := @CrossStores.retried_sound operationId _ _ _ _ (crossStores_consistent begun) rfl
    retries
  have fenceable := sound.2.mp
    ((CrossStores.completes_iff sound.1.consistent sound.1.level).mp completes)
  exact absurd fenceable.2.2 (by decide)

end DispatcherSdk.Orchestrator
