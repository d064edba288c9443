/-
This file proves what the dispatch permits guarantee in every interleaving of flushes,
reconciliations, pauses and crashes, and how far `flush` is fair to the messages it works on.

A message is handed to the Kernel at most once, because its permit is taken out at most once,
and once a pause is decided every permit of the Run is accepted. Every way out of the delivery
of a message counts an attempt or delivers it, but for one: when the permit of a dispatch is
refused, or another permit for it is still open, the message is passed over as it is.
-/

import DispatcherSdk.Orchestrator.DispatchPermitMoves
import Mathlib.Algebra.Group.Action.Defs
import Mathlib.Algebra.Order.BigOperators.Group.Finset

namespace DispatcherSdk.Orchestrator

open Library Library.Checked Table List Option
open ExecutionKernel hiding ExecutionRow OutboxRow EventRow Operation

namespace Dispatching

variable {state next : Dispatching}

/-! ### Steps -/

structure Sound (state : Dispatching) : Prop where
  kept : state.Kept
  vouched : ∀ flush ∈ state.flushes, state.Vouched flush
  single : ∀ sequence, state.flushes.countP (holds sequence) + state.submitted.count sequence ≤
    state.issued sequence

theorem Sound.follow (sound : state.Sound) (grows : state.Grows next) (kept : next.Kept)
    (flushes : next.flushes = state.flushes) (submitted : next.submitted = state.submitted)
    (permits : next.permits = state.permits) : state.Grows next ∧ next.Sound := by
  refine ⟨grows, kept, fun flush member => ?_, fun sequence => ?_⟩
  · rw [flushes] at member
    exact grows.vouched (sound.vouched flush member)
  · unfold issued
    rw [flushes, submitted, permits]
    exact sound.single sequence

theorem Sound.start (sound : state.Sound) {started : List Flush}
    (vouched : ∀ flush ∈ started, state.Vouched flush)
    (idle : ∀ flush ∈ started, ∀ sequence, holds sequence flush = false) :
    state.Grows { state with flushes := started ++ state.flushes } ∧
      Sound { state with flushes := started ++ state.flushes } := by
  have grows := (Grows.refl state).stores (started ++ state.flushes) state.submitted
  refine ⟨grows, sound.kept.stores _ _, fun flush member => ?_, fun sequence => ?_⟩
  · rcases mem_append.mp member with new | old
    · exact grows.vouched (vouched flush new)
    · exact grows.vouched (sound.vouched flush old)
  · have none : started.countP (holds sequence) = 0 :=
      countP_eq_zero.mpr fun flush member => by
        rw [idle flush member sequence]
        exact Bool.false_ne_true
    rw [countP_append, none, Nat.zero_add]
    exact sound.single sequence

theorem Sound.move (sound : state.Sound) {before after left : List Flush} {flush : Flush}
    (working : state.flushes = before ++ flush :: after) (moved : state.Moved flush next left) :
    state.Grows { next with flushes := before ++ left ++ after } ∧
      Sound { next with flushes := before ++ left ++ after } := by
  have grows := moved.grows.stores (before ++ left ++ after) next.submitted
  refine ⟨grows, moved.kept.stores _ _, fun process member => ?_, fun sequence => ?_⟩
  · have same := (Grows.refl next).stores (before ++ left ++ after) next.submitted
    rw [append_assoc, mem_append, mem_append] at member
    have others : process ∈ before ∨ process ∈ after →
        Vouched { next with flushes := before ++ left ++ after } process := by
      intro other
      refine grows.vouched (sound.vouched process ?_)
      rw [working, mem_append]
      exact other.imp id (mem_cons_of_mem flush)
    rcases member with early | new | late
    · exact others (.inl early)
    · exact same.vouched (moved.vouched process new)
    · exact others (.inr late)
  · have held := sound.single sequence
    have change := moved.single sequence
    rw [working, countP_append, countP_cons] at held
    show (before ++ left ++ after).countP (holds sequence) + next.submitted.count sequence ≤
      next.issued sequence
    rw [countP_append, countP_append]
    omega

theorem Sound.scan (sound : state.Sound) (storeId : Identifier) (blocked : List Identifier)
    (limit : ℕ) :
    state.Grows { state with
        flushes := .scanned storeId blocked limit state.pendingMessages :: state.flushes } ∧
      Sound { state with
        flushes := .scanned storeId blocked limit state.pendingMessages :: state.flushes } := by
  refine @start _ sound [.scanned storeId blocked limit state.pendingMessages]
    (fun flush member => ?_) fun flush member _ => ?_
  · rw [mem_singleton] at member
    subst member
    exact fun message pending =>
      ⟨message, find?_key (mem_pendingMessages.mp pending).1, .refl message⟩
  · rw [mem_singleton] at member
    subst member
    rfl

theorem Sound.look (sound : state.Sound) (storeId runId : Identifier) (limit : ℕ) :
    state.Grows { state with
        flushes := (state.openPermits runId limit).map (.reconciling storeId) ++ state.flushes } ∧
      Sound { state with
        flushes := (state.openPermits runId limit).map (.reconciling storeId) ++ state.flushes } := by
  refine sound.start (fun flush member => ?_) fun flush member _ => ?_
  · obtain ⟨permit, read, rfl⟩ := mem_map.mp member
    unfold openPermits at read
    have stored := mem_of_mem_take read
    rw [mem_insertionSort] at stored
    exact ⟨permit, find?_key (mem_of_mem_filter stored), .refl permit⟩
  · obtain ⟨permit, _, rfl⟩ := mem_map.mp member
    rfl

variable {runId : Identifier}

theorem not_closing {gate : GateRow} {operation : PauseRow}
    (found : state.controls.find? runId = some gate) (open_ : gate.control.state ≠ .pausing)
    (here : operation.runId = runId) : ¬ state.Closing operation := by
  rintro ⟨other, there, same⟩
  rw [here, found] at there
  cases there
  rw [same] at open_
  exact open_ rfl

theorem Sound.register (sound : state.Sound) {messages : List Message}
    (new : state.controls.find? runId = none) (unheard : ∀ message ∈ state.outbox, message.runId ≠ runId)
    (fresh : state.Fresh runId messages)
    (reserved : ∀ message ∈ messages, message.executionId.managed = true) :
    state.Grows ((state.setControl runId ⟨.paused, 0, 0⟩ [] none).enqueue messages) ∧
      ((state.setControl runId ⟨.paused, 0, 0⟩ [] none).enqueue messages).Sound := by
  have controlled : (state.setControl runId ⟨.paused, 0, 0⟩ [] none).Kept := by
    refine sound.kept.setControl (.inr unheard) (fun gate found => ?_) (fun _ permit member named => ?_)
      fun _ _ _ _ same => nomatch congrArg ManagedControl.state same
    · cases new.symm.trans found
    · obtain ⟨message, queued, same⟩ := sound.kept.issued permit member
      exact absurd (same.trans named) (unheard message queued)
  obtain ⟨first, sounds⟩ := sound.follow (setControl_grows (.inr unheard)) controlled rfl rfl rfl
  have fresh' : (state.setControl runId ⟨.paused, 0, 0⟩ [] none).Fresh runId messages := fresh
  obtain ⟨second, result⟩ := sounds.follow (enqueue_grows fresh')
    (controlled.enqueue fresh' fun message member _ =>
      ⟨fun _ _ here => not_closing ((find?_setControl runId).trans (if_pos rfl)) nofun here,
        fun _ => reserved message member⟩) rfl rfl rfl
  exact ⟨first.trans second, result⟩

theorem Kept.putPause (kept : state.Kept) {operation : PauseRow} {gate : GateRow}
    (found : state.controls.find? operation.runId = some gate)
    (dated : operation.sourceEpoch + 1 ≤ gate.control.epoch)
    (barred : operation.prepared = true → state.Closing operation →
      state.Settled operation.runId ∧ state.Exhausted operation.runId) :
    Kept { state with pauses := state.pauses.put operation } where
  accepted := kept.accepted
  issued := kept.issued
  served := kept.served
  closed := kept.closed
  barred other member prepared closing := by
    rcases mem_put.mp member with rfl | ⟨old, _⟩
    · exact barred prepared closing
    · exact kept.barred other old prepared closing
  dated other member := by
    rcases mem_put.mp member with rfl | ⟨old, _⟩
    · exact ⟨gate, found, dated⟩
    · exact kept.dated other old
  reserved := kept.reserved

theorem putPause_grows (operation : PauseRow) :
    state.Grows { state with pauses := state.pauses.put operation } :=
  ⟨fun _ => .refl _, fun _ permit found => ⟨permit, found, .refl permit⟩,
    fun _ message found => ⟨message, found, .refl message⟩, fun _ => Or.inl⟩

theorem Sound.enqueue (sound : state.Sound) {runId : Identifier} {messages : List Message}
    (fresh : state.Fresh runId messages) (open_ : ∀ message ∈ messages, message.kind = .dispatch →
      (∀ operation ∈ state.pauses, operation.runId = runId → ¬ state.Closing operation) ∧
        (state.Managed runId → message.executionId.managed = true)) :
    state.Grows (state.enqueue messages) ∧ (state.enqueue messages).Sound :=
  sound.follow (enqueue_grows fresh) (sound.kept.enqueue fresh open_) rfl rfl rfl

variable {expectedEpoch : ℕ} {drain : List Identifier}

variable {cancels : List Message}

theorem requestPause_settled {mode : PauseMode}
    (passed : state.requestPause runId expectedEpoch mode drain cancels = .ok next) :
    ∃ gate, state.controls.find? runId = some gate ∧ gate.control.epoch = expectedEpoch ∧
      next = (state.setControl runId ⟨.pausing, expectedEpoch + 1, gate.control.generation⟩ drain
        (some mode)).enqueue (if mode = .interrupt then cancels else []) := by
  unfold requestPause at passed
  simp only [passes_iff] at passed
  obtain ⟨gate, found, epoch, _, answered⟩ := passed
  cases answered
  exact ⟨gate, found, epoch, rfl⟩

theorem Sound.requestPause (sound : state.Sound)
    {mode : PauseMode} (fresh : state.Fresh runId cancels)
    (withdraws : ∀ message ∈ cancels, message.kind = .cancel)
    (passed : state.requestPause runId expectedEpoch mode drain cancels = .ok next) :
    state.Grows next ∧ next.Sound := by
  obtain ⟨gate, found, rfl, rfl⟩ := requestPause_settled passed
  obtain ⟨first, closed⟩ := sound.follow (setControl_grows (.inl ⟨gate, found⟩))
    (sound.kept.closeGate found) rfl rfl rfl
  have queued : Fresh (state.setControl runId
      ⟨.pausing, gate.control.epoch + 1, gate.control.generation⟩ drain (some mode)) runId
      (if mode = .interrupt then cancels else []) := by
    split
    · exact fresh
    · exact ⟨nofun, nodup_nil⟩
  obtain ⟨second, result⟩ := closed.enqueue queued fun message member dispatch => by
    split at member
    · rw [withdraws message member] at dispatch
      cases dispatch
    · cases member
  exact ⟨first.trans second, result⟩

variable {operationId storeId : Identifier}

/-- What `begin_cross_store_pause` has checked. -/
theorem beginCrossStorePause_settled
    (passed : state.beginCrossStorePause operationId runId expectedEpoch drain storeId = .ok next) :
    state.pauses.find? operationId = none ∧ ∃ gate, state.controls.find? runId = some gate ∧
      gate.control.epoch = expectedEpoch ∧
      next = { state.setControl runId ⟨.pausing, expectedEpoch + 1, gate.control.generation⟩ drain
          (some (if drain = [] then .interrupt else .drain)) with
        pauses := state.pauses.put
          ⟨operationId, runId, expectedEpoch, gate.control.generation, storeId, false, false⟩ } := by
  unfold beginCrossStorePause at passed
  simp only [passes_iff] at passed
  obtain ⟨new, gate, found, epoch, _, answered⟩ := passed
  cases answered
  exact ⟨isNone_iff_eq_none.mp new, gate, found, epoch, rfl⟩

theorem Sound.beginCrossStorePause (sound : state.Sound)
    (passed : state.beginCrossStorePause operationId runId expectedEpoch drain storeId = .ok next) :
    state.Grows next ∧ next.Sound := by
  obtain ⟨-, gate, found, rfl, rfl⟩ := beginCrossStorePause_settled passed
  have closed := @Kept.closeGate state runId drain
    (some (if drain = [] then .interrupt else .drain)) sound.kept gate gate.control.generation found
  have written := @Kept.putPause _ closed
    ⟨operationId, runId, gate.control.epoch, gate.control.generation, storeId, false, false⟩ _
      ((find?_setControl runId).trans (if_pos rfl)) le_rfl nofun
  exact sound.follow ((setControl_grows (.inl ⟨gate, found⟩)).trans (putPause_grows _)) written rfl
    rfl rfl

/-- What `prepare_cross_store_pause` has checked when it records its decision. -/
theorem prepareCrossStorePause_settled {operation : PauseRow}
    (passed : state.prepareCrossStorePause operationId storeId = .ok next)
    (found : state.pauses.find? operationId = some operation) :
    operation.kernelStoreId = storeId ∧ (∃ gate, state.controls.find? operation.runId = some gate) ∧
    (operation.prepared = true ∧ next = state ∨
    operation.prepared = false ∧
      (∀ permit ∈ state.permits, permit.runId = operation.runId →
        permit.state = .accepted ∧ permit.kernelStoreId = operation.kernelStoreId) ∧
      (∀ message ∈ state.pendingDispatches operation.runId,
        (state.permits.find? message.sequence).isSome) ∧
      next = { state with pauses := state.pauses.put { operation with prepared := true } }) := by
  unfold prepareCrossStorePause at passed
  simp only [passes_iff] at passed
  obtain ⟨other, there, store, gate, managed, _, passed⟩ := passed
  cases found.symm.trans there
  refine ⟨store, ⟨gate, managed⟩, ?_⟩
  split at passed
  · rename_i prepared
    cases passed
    exact .inl ⟨prepared, rfl⟩
  · rename_i open_
    simp only [passes_iff] at passed
    obtain ⟨_, ⟨settled, pending⟩, answered⟩ := passed
    cases answered
    refine Or.inr ⟨Bool.eq_false_of_not_eq_true open_, settled, fun message member => ?_, rfl⟩
    obtain ⟨permit, there, _⟩ := map_eq_some_iff.mp (pending message member)
    exact isSome_iff_exists.mpr ⟨permit, there⟩

theorem prepareCrossStorePause_found
    (passed : state.prepareCrossStorePause operationId storeId = .ok next) :
    ∃ operation, state.pauses.find? operationId = some operation := by
  unfold prepareCrossStorePause at passed
  simp only [passes_iff] at passed
  obtain ⟨operation, found, _⟩ := passed
  exact ⟨operation, found⟩

theorem Sound.prepareCrossStorePause (sound : state.Sound)
    (passed : state.prepareCrossStorePause operationId storeId = .ok next) :
    state.Grows next ∧ next.Sound := by
  obtain ⟨operation, found⟩ := prepareCrossStorePause_found passed
  obtain ⟨_, ⟨gate, managed⟩, same | ⟨_, settled, pending, rfl⟩⟩ :=
    prepareCrossStorePause_settled passed found
  · rw [same.2]
    exact ⟨.refl state, sound⟩
  · obtain ⟨other, there, dated⟩ := sound.kept.dated operation (mem_of_find? found)
    refine sound.follow (putPause_grows _) (sound.kept.putPause there dated fun _ _ => ⟨?_, ?_⟩) rfl
      rfl rfl
    · exact fun permit member named => (settled permit member named).1
    · intro message queued named dispatch
      by_cases served : message.delivered = true
      · exact sound.kept.served message queued served dispatch ⟨gate, named ▸ managed⟩
      · exact pending message (mem_filter.mpr ⟨queued, decide_eq_true
          ⟨named, Bool.eq_false_of_not_eq_true served, dispatch⟩⟩)

/-- What `finalize_cross_store_pause` has checked. -/
theorem finalizeCrossStorePause_settled
    (passed : state.finalizeCrossStorePause operationId = .ok next) :
    ∃ operation, state.pauses.find? operationId = some operation ∧ operation.prepared = true ∧
      (next = state ∨ ∃ gate, state.controls.find? operation.runId = some gate ∧
        gate.control = ⟨.pausing, operation.sourceEpoch + 1, operation.generation⟩ ∧
        next = { state.setControl operation.runId
            ⟨.paused, operation.sourceEpoch + 2, operation.generation⟩ [] none with
          pauses := state.pauses.put { operation with paused := true } }) := by
  unfold finalizeCrossStorePause at passed
  simp only [passes_iff] at passed
  obtain ⟨operation, found, prepared, passed⟩ := passed
  refine ⟨operation, found, prepared, ?_⟩
  split at passed
  · cases passed
    exact .inl rfl
  · simp only [passes_iff] at passed
    obtain ⟨gate, managed, closing, answered⟩ := passed
    cases answered
    exact .inr ⟨gate, managed, closing, rfl⟩

theorem Sound.finalizeCrossStorePause (sound : state.Sound)
    (passed : state.finalizeCrossStorePause operationId = .ok next) :
    state.Grows next ∧ next.Sound := by
  obtain ⟨operation, found, prepared, rfl | ⟨gate, managed, closing, rfl⟩⟩ :=
    finalizeCrossStorePause_settled passed
  · exact ⟨.refl _, sound⟩
  · have all := (sound.kept.barred operation (mem_of_find? found) prepared
      ⟨gate, managed, closing⟩).1
    have known : state.Known operation.runId := Or.inl ⟨gate, managed⟩
    have paused : (state.setControl operation.runId
        ⟨.paused, operation.sourceEpoch + 2, operation.generation⟩ [] none).Kept := by
      refine sound.kept.setControl known (fun other there => ?_) (fun _ => all)
        fun _ _ _ _ same => nomatch congrArg ManagedControl.state same
      cases managed.symm.trans there
      rw [closing]
      exact Nat.le_succ _
    have at_ : (state.setControl operation.runId
        ⟨.paused, operation.sourceEpoch + 2, operation.generation⟩ [] none).controls.find?
          operation.runId = some ⟨operation.runId,
            ⟨.paused, operation.sourceEpoch + 2, operation.generation⟩⟩ :=
      (find?_setControl operation.runId).trans (if_pos rfl)
    have written := @Kept.putPause _ paused { operation with paused := true } _ at_ (Nat.le_succ _)
      fun _ closes => absurd closes (not_closing at_ nofun rfl)
    exact sound.follow ((setControl_grows known).trans (putPause_grows _)) written rfl rfl rfl

/-- What `_settle_managed_pause` has checked when it pauses the Run. -/
theorem settleManagedPause_settled
    (passed : state.settleManagedPause runId expectedEpoch = .ok next) :
    ∃ gate, state.controls.find? runId = some gate ∧ (gate.control.state = .paused ∧ next = state ∨
      gate.control.epoch = expectedEpoch ∧ gate.control.state = .pausing ∧ state.Settled runId ∧
        next = state.setControl runId ⟨.paused, expectedEpoch + 1, gate.control.generation⟩ []
          none) := by
  unfold settleManagedPause at passed
  simp only [bind_eq_ok, present_eq_ok] at passed
  obtain ⟨gate, found, passed⟩ := passed
  refine ⟨gate, found, ?_⟩
  split at passed
  · rename_i paused
    cases passed
    exact .inl ⟨paused.1, rfl⟩
  · simp only [passes_iff] at passed
    obtain ⟨epoch, pausing, transition, _, settled, _, answered⟩ := passed
    cases answered
    exact .inr ⟨epoch, pausing, settled, rfl⟩

theorem Sound.pauseGate (sound : state.Sound) {runId : Identifier} {gate : GateRow}
    {control : ManagedControl} (found : state.controls.find? runId = some gate)
    (later : gate.control.epoch ≤ control.epoch) (open_ : control.state ≠ .pausing)
    (closed : control.state = .paused → state.Settled runId) :
    state.Grows (state.setControl runId control [] none) ∧
      (state.setControl runId control [] none).Sound := by
  refine sound.follow (setControl_grows (.inl ⟨gate, found⟩))
    (sound.kept.setControl (.inl ⟨gate, found⟩) (fun other there => ?_) closed
      fun _ _ _ _ same => absurd (congrArg ManagedControl.state same) open_) rfl rfl rfl
  cases found.symm.trans there
  exact later

theorem Sound.settleManagedPause (sound : state.Sound)
    (passed : state.settleManagedPause runId expectedEpoch = .ok next) :
    state.Grows next ∧ next.Sound := by
  obtain ⟨gate, found, ⟨_, rfl⟩ | ⟨rfl, _, settled, rfl⟩⟩ := settleManagedPause_settled passed
  · exact ⟨.refl _, sound⟩
  · exact sound.pauseGate found (Nat.le_succ _) nofun fun _ => settled

/-- What `install_cross_store_projection` has checked. -/
theorem installProjection_settled (passed : state.installProjection runId = .ok next) :
    ∃ gate, state.controls.find? runId = some gate ∧ gate.control.state = .paused ∧
      next = state.setControl runId ⟨.paused, gate.control.epoch + 1, gate.control.generation + 1⟩ []
        none := by
  unfold installProjection at passed
  simp only [passes_iff] at passed
  obtain ⟨gate, found, paused, answered⟩ := passed
  cases answered
  exact ⟨gate, found, paused, rfl⟩

theorem Sound.installProjection (sound : state.Sound)
    (passed : state.installProjection runId = .ok next) : state.Grows next ∧ next.Sound := by
  obtain ⟨gate, found, paused, rfl⟩ := installProjection_settled passed
  exact sound.pauseGate found (Nat.le_succ _) nofun fun _ =>
    sound.kept.closed runId gate found paused

theorem resume_settled {messages : List Message} (passed : state.resume runId messages = .ok next) :
    ∃ gate, state.controls.find? runId = some gate ∧
      next = (state.setControl runId ⟨.active, gate.control.epoch + 1, gate.control.generation⟩ []
        none).enqueue messages := by
  unfold resume at passed
  simp only [passes_iff] at passed
  obtain ⟨gate, found, _, answered⟩ := passed
  cases answered
  exact ⟨gate, found, rfl⟩

theorem Sound.resume (sound : state.Sound) {messages : List Message}
    (fresh : state.Fresh runId messages)
    (reserved : ∀ message ∈ messages, message.executionId.managed = true)
    (passed : state.resume runId messages = .ok next) : state.Grows next ∧ next.Sound := by
  obtain ⟨gate, found, rfl⟩ := resume_settled passed
  obtain ⟨first, active⟩ := @Sound.pauseGate state sound runId gate
    ⟨.active, gate.control.epoch + 1, gate.control.generation⟩ found (Nat.le_succ _) nofun nofun
  obtain ⟨second, result⟩ := @Sound.enqueue _ active runId messages fresh fun message member _ =>
    ⟨fun _ _ here => not_closing ((find?_setControl runId).trans (if_pos rfl)) nofun here,
      fun _ => reserved message member⟩
  exact ⟨first.trans second, result⟩

theorem Step.keeps (sound : state.Sound) (step : state.Step next) : state.Grows next ∧ next.Sound := by
  cases step with
  | scan storeId blocked limit => exact sound.scan storeId blocked limit
  | look storeId runId limit => exact sound.look storeId runId limit
  | move before after flush other left working moved =>
    have held : flush ∈ state.flushes := by
      rw [working]
      exact mem_append_right before mem_cons_self
    exact sound.move working (Move.moved sound.kept (sound.vouched flush held) moved)
  | kernel storeId kernel keeps =>
    exact sound.follow (setKernel_grows keeps) (sound.kept.setKernel keeps) rfl rfl rfl
  | register runId messages new unheard fresh reserved =>
    exact sound.register new unheard fresh reserved
  | queue runId messages fresh open_ =>
    refine sound.enqueue fresh fun message member _ =>
      ⟨fun operation stored here => ?_, fun ⟨gate, found⟩ => (open_ gate found).2 message member⟩
    obtain ⟨gate, found, _⟩ := sound.kept.dated operation stored
    rw [here] at found
    refine not_closing found ?_ here
    rw [(open_ gate found).1]
    exact nofun
  | withdraw runId messages fresh cancels =>
    refine sound.enqueue fresh fun message member dispatch => ?_
    rw [cancels message member] at dispatch
    cases dispatch
  | requestPause runId expectedEpoch mode drain cancels after fresh withdraws passed =>
    exact sound.requestPause fresh (fun message member => (withdraws message member).1) passed
  | beginPause operationId runId expectedEpoch drain storeId after passed =>
    exact sound.beginCrossStorePause passed
  | prepare operationId storeId after passed => exact sound.prepareCrossStorePause passed
  | finalize operationId after passed => exact sound.finalizeCrossStorePause passed
  | settle runId expectedEpoch after passed => exact sound.settleManagedPause passed
  | install runId after passed => exact sound.installProjection passed
  | resume runId messages after fresh reserved passed => exact sound.resume fresh reserved passed

/-! ### Every interleaving -/

theorem Move.issues {flush : Flush} {left : List Flush} (move : flush.Move state next left) :
    next.transitions = state.transitions ∧
    ((∀ name, (next.permits.find? name).isSome = (state.permits.find? name).isSome) ∨
      ∃ storeId message, flush = .working storeId message (.selected true) ∧
        message.kind = .dispatch ∧
        state.acquireDispatchPermit storeId message = .ok (.new, next)) := by
  have accepts : ∀ {storeId : Identifier} {sequence : ℕ} {after : Dispatching},
      state.acceptDispatchPermit storeId sequence = .ok after →
        after.transitions = state.transitions ∧
          ∀ name, (after.permits.find? name).isSome = (state.permits.find? name).isSome := by
    intro storeId sequence after passed
    unfold acceptDispatchPermit at passed
    simp only [passes_iff] at passed
    obtain ⟨_, _, _, answered⟩ := passed
    cases answered
    exact ⟨rfl, isSome_settlePermit⟩
  cases move with
  | acquire storeId message after dispatch passed =>
    refine ⟨?_, Or.inr ⟨storeId, message, rfl, dispatch, passed⟩⟩
    obtain ⟨gate, transition, _, _, _, _, rfl⟩ := acquireDispatchPermit_new passed
    rfl
  | accept storeId message after passed => exact (accepts passed).imp id Or.inl
  | reconcile storeId permit after passed => exact (accepts passed).imp id Or.inl
  | record storeId message => exact ⟨rfl, Or.inl isSome_settlePermit⟩
  | overlook storeId permit => exact ⟨rfl, Or.inl isSome_settlePermit⟩
  | _ => exact ⟨rfl, Or.inl fun _ => rfl⟩

theorem Step.issues (step : state.Step next) :
    state.transitions <+: next.transitions ∧
    ((∀ name, (next.permits.find? name).isSome = (state.permits.find? name).isSome) ∨
      ∃ storeId message after, .working storeId message (.selected true) ∈ state.flushes ∧
        message.kind = .dispatch ∧ next.permits = after.permits ∧
        state.acquireDispatchPermit storeId message = .ok (.new, after)) := by
  cases step with
  | move before after flush other left working moved =>
    obtain ⟨same, kept | ⟨storeId, message, rfl, dispatch, passed⟩⟩ := Move.issues moved
    · exact ⟨same ▸ prefix_rfl, Or.inl kept⟩
    · refine ⟨same ▸ prefix_rfl, Or.inr ⟨storeId, message, other, ?_, dispatch, rfl, passed⟩⟩
      rw [working]
      exact mem_append_right before mem_cons_self
  | requestPause runId expectedEpoch mode drain cancels after fresh withdraws passed =>
    obtain ⟨_, _, _, rfl⟩ := requestPause_settled passed
    exact ⟨prefix_append _ _, Or.inl fun _ => rfl⟩
  | beginPause operationId runId expectedEpoch drain storeId after passed =>
    obtain ⟨-, _, _, _, rfl⟩ := beginCrossStorePause_settled passed
    exact ⟨prefix_append _ _, Or.inl fun _ => rfl⟩
  | prepare operationId storeId after passed =>
    obtain ⟨operation, found⟩ := prepareCrossStorePause_found passed
    obtain ⟨_, _, ⟨_, rfl⟩ | ⟨_, _, _, rfl⟩⟩ := prepareCrossStorePause_settled passed found
    · exact ⟨prefix_rfl, Or.inl fun _ => rfl⟩
    · exact ⟨prefix_rfl, Or.inl fun _ => rfl⟩
  | finalize operationId after passed =>
    obtain ⟨_, _, _, rfl | ⟨_, _, _, rfl⟩⟩ := finalizeCrossStorePause_settled passed
    · exact ⟨prefix_rfl, Or.inl fun _ => rfl⟩
    · exact ⟨prefix_append _ _, Or.inl fun _ => rfl⟩
  | settle runId expectedEpoch after passed =>
    obtain ⟨_, _, ⟨_, rfl⟩ | ⟨_, _, _, rfl⟩⟩ := settleManagedPause_settled passed
    · exact ⟨prefix_rfl, Or.inl fun _ => rfl⟩
    · exact ⟨prefix_append _ _, Or.inl fun _ => rfl⟩
  | install runId after passed =>
    obtain ⟨_, _, _, rfl⟩ := installProjection_settled passed
    exact ⟨prefix_append _ _, Or.inl fun _ => rfl⟩
  | resume runId messages after fresh reserved passed =>
    obtain ⟨_, _, rfl⟩ := resume_settled passed
    exact ⟨prefix_append _ _, Or.inl fun _ => rfl⟩
  | register => exact ⟨prefix_append _ _, Or.inl fun _ => rfl⟩
  | _ => exact ⟨prefix_rfl, Or.inl fun _ => rfl⟩

/-- The pause of the Run is decided: it is paused, or a prepared operation has closed its gate. -/
def Decided (state : Dispatching) (runId : Identifier) : Prop :=
  ∃ gate, state.controls.find? runId = some gate ∧ (gate.control.state = .paused ∨
    ∃ operation ∈ state.pauses, operation.runId = runId ∧ operation.prepared = true ∧
      gate.control = ⟨.pausing, operation.sourceEpoch + 1, operation.generation⟩)

theorem Kept.decided (kept : state.Kept) (decided : state.Decided runId) : state.Settled runId := by
  obtain ⟨gate, found, paused | ⟨operation, stored, rfl, prepared, closing⟩⟩ := decided
  · exact kept.closed runId gate found paused
  · exact (kept.barred operation stored prepared ⟨gate, found, closing⟩).1

/-- A permit of the Run is in the state accepted, and its Kernel has accepted the execution. -/
structure Honoured (state : Dispatching) (permit : DispatchPermit) : Prop where
  accepted : permit.state = .accepted
  admitted : state.Admitted permit.kernelStoreId permit.executionId permit.runId permit.generation

/-- What the permits guarantee in a state and from then on. -/
structure Lawful (state : Dispatching) : Prop where
  /-- No message is submitted twice, and none without a permit. -/
  once : state.submitted.Nodup ∧
    ∀ sequence ∈ state.submitted, (state.permits.find? sequence).isSome
  /-- A permit is granted by an active Run, or by a pausing one for its drain set. -/
  gated : ∀ next permit, state.Step next → permit ∈ next.permits →
    state.permits.find? permit.sequence = none →
    ∃ gate transition, state.controls.find? permit.runId = some gate ∧
      state.transitionAt permit.runId gate.control.epoch = some transition ∧
      (gate.control.state = .active ∨
        (gate.control.state = .pausing ∧ permit.executionId ∈ transition.drainExecutionIds))
  /-- The drain set of an epoch never changes. -/
  frozen : ∀ last, dispatching.Run state last → ∀ runId epoch transition,
    state.transitionAt runId epoch = some transition →
      last.transitionAt runId epoch = some transition
  /-- No permit is forgotten. -/
  remembered : ∀ last, dispatching.Run state last → ∀ permit ∈ state.permits,
    ∃ later ∈ last.permits, later.sequence = permit.sequence ∧ permit.Keeps later
  prepared : ∀ operationId storeId operation next,
    state.prepareCrossStorePause operationId storeId = .ok next →
    state.pauses.find? operationId = some operation → operation.prepared = false →
    ∀ permit ∈ state.permits, permit.runId = operation.runId →
      state.Honoured permit ∧ permit.kernelStoreId = storeId
  settled : ∀ runId expectedEpoch gate next,
    state.settleManagedPause runId expectedEpoch = .ok next →
    state.controls.find? runId = some gate → gate.control.state = .pausing →
    ∀ permit ∈ state.permits, permit.runId = runId → state.Honoured permit
  /-- Once a pause is decided the Run gets no permit, and what is still submitted for it is known to
  the Kernel already. -/
  decided : ∀ runId, state.Decided runId →
    (∀ permit ∈ state.permits, permit.runId = runId → state.Honoured permit) ∧
    (∀ next permit, state.Step next → permit ∈ next.permits → permit.runId = runId →
      (state.permits.find? permit.sequence).isSome) ∧
    ∀ storeId message accepts, message.runId = runId →
      (.working storeId message .submitting ∈ state.flushes →
        ((state.kernels storeId).submitManaged message accepts).2 = state.kernels storeId) ∧
      (.working storeId message .plainSubmitting ∈ state.flushes →
        ((state.kernels storeId).submit message accepts).2 = state.kernels storeId)

theorem Sound.once (sound : state.Sound) : state.submitted.Nodup ∧
    ∀ sequence ∈ state.submitted, (state.permits.find? sequence).isSome := by
  have bound : ∀ sequence, state.submitted.count sequence ≤ state.issued sequence := by
    intro sequence
    have held := sound.single sequence
    omega
  refine ⟨nodup_iff_count_le_one.mpr fun sequence => ?_, fun sequence submitted => ?_⟩
  · have most : state.issued sequence ≤ 1 := by
      unfold issued
      split
      · exact le_rfl
      · exact Nat.zero_le 1
    exact (bound sequence).trans most
  · by_contra none
    have count := count_pos_iff.mpr submitted
    have held := bound sequence
    unfold issued at held
    rw [if_neg none] at held
    omega

variable {permit : DispatchPermit}

theorem Step.gated (step : state.Step next) (member : permit ∈ next.permits)
    (fresh : state.permits.find? permit.sequence = none) :
    ∃ storeId message after, .working storeId message (.selected true) ∈ state.flushes ∧
      message.kind = .dispatch ∧ state.acquireDispatchPermit storeId message = .ok (.new, after) ∧
        permit.runId = message.runId ∧ permit.executionId = message.executionId := by
  obtain ⟨_, same | ⟨storeId, message, after, held, dispatch, permits, passed⟩⟩ := step.issues
  · have there := same permit.sequence
    rw [fresh, find?_key member] at there
    cases there
  · refine ⟨storeId, message, after, held, dispatch, passed, ?_⟩
    obtain ⟨gate, transition, _, _, _, _, rfl⟩ := acquireDispatchPermit_new passed
    rw [permits] at member
    rcases mem_put.mp member with rfl | ⟨old, _⟩
    · exact ⟨rfl, rfl⟩
    · rw [find?_key old] at fresh
      cases fresh

theorem Sound.honoured (sound : state.Sound) (member : permit ∈ state.permits)
    (accepted : permit.state = .accepted) : state.Honoured permit :=
  ⟨accepted, sound.kept.accepted permit member accepted⟩

theorem Sound.decided_refuses (sound : state.Sound) {message : Message}
    (decided : state.Decided message.runId) (queued : state.Queued message)
    (dispatch : message.kind = .dispatch) :
    state.acquireDispatchPermit storeId message ≠ .ok (.new, next) := by
  intro passed
  obtain ⟨gate, transition, found, _, allowed, fresh, _⟩ := acquireDispatchPermit_new passed
  obtain ⟨other, there, paused | ⟨operation, stored, here, prepared, closing⟩⟩ := decided
  · cases found.symm.trans there
    rcases mayDispatch_iff.mp allowed with active | ⟨pausing, _⟩
    · cases paused.symm.trans active
    · cases paused.symm.trans pausing
  · obtain ⟨row, listed, same⟩ := queued
    have covers := (sound.kept.barred operation stored prepared ⟨other, here.symm ▸ there, closing⟩).2
      row (mem_of_find? listed) (same.runId.trans here.symm) (same.kind.trans dispatch)
    rw [key_of_find? listed, fresh] at covers
    cases covers

theorem Sound.decided (sound : state.Sound) (decided : state.Decided runId) :
    (∀ permit ∈ state.permits, permit.runId = runId → state.Honoured permit) ∧
    (∀ next permit, state.Step next → permit ∈ next.permits → permit.runId = runId →
      (state.permits.find? permit.sequence).isSome) ∧
    ∀ storeId message accepts, message.runId = runId →
      (.working storeId message .submitting ∈ state.flushes →
        ((state.kernels storeId).submitManaged message accepts).2 = state.kernels storeId) ∧
      (.working storeId message .plainSubmitting ∈ state.flushes →
        ((state.kernels storeId).submit message accepts).2 = state.kernels storeId) := by
  have all := sound.kept.decided decided
  refine ⟨fun permit member named => sound.honoured member (all permit member named),
    fun next permit step member named => ?_, fun storeId message accepts named => ⟨?_, ?_⟩⟩
  · by_contra none
    obtain ⟨storeId, message, after, held, dispatch, passed, run, _⟩ :=
      Step.gated step member (not_isSome_iff_eq_none.mp none)
    exact sound.decided_refuses ((run.symm.trans named).symm ▸ decided)
      (sound.vouched _ held).1 dispatch passed
  · intro held
    obtain ⟨_, permit, found, run, execution, age, store⟩ := sound.vouched _ held
    have member := mem_of_find? found
    have admitted := sound.kept.accepted permit member (all permit member (run.trans named))
    rw [store, execution, run, age] at admitted
    exact Admissions.submitManaged_replays admitted accepts
  · intro held
    obtain ⟨⟨row, listed, same⟩, dispatch, _⟩ := sound.vouched _ held
    obtain ⟨gate, found, _⟩ := decided
    have managed : state.Managed row.runId := ⟨gate, (same.runId.trans named).symm ▸ found⟩
    have reserved := sound.kept.reserved row (mem_of_find? listed) (same.kind.trans dispatch) managed
    rw [same.executionId] at reserved
    exact Admissions.submit_reserved reserved accepts

end Dispatching

theorem dispatching_sound {state : Dispatching} (reachable : dispatching.Reachable state) :
    state.Sound := by
  refine reachable.invariant Dispatching.Sound ?_ fun before after _ sound step => (step.keeps sound).2
  rintro first ⟨controls, _, pauses, outbox, permits, flushes, submitted⟩
  refine ⟨⟨?_, ?_, ?_, ?_, ?_, ?_, ?_⟩, ?_, ?_⟩
  · rw [permits]
    exact nofun
  · rw [permits]
    exact nofun
  · rw [outbox]
    exact nofun
  · rw [controls]
    exact nofun
  · rw [pauses]
    exact nofun
  · rw [pauses]
    exact nofun
  · rw [outbox]
    exact nofun
  · rw [flushes]
    exact nofun
  · intro sequence
    rw [flushes, submitted]
    exact Nat.zero_le _

/-- In every interleaving a message is submitted at most once, a permit is granted only by a Run
that is active or drains, and after a decided pause nothing new of it reaches the Kernel. -/
theorem dispatching_lawful {state : Dispatching} (reachable : dispatching.Reachable state) :
    state.Lawful := by
  have sound := dispatching_sound reachable
  refine ⟨sound.once, fun next permit step member fresh => ?_,
    fun last run runId epoch transition found => ?_, fun last run permit member => ?_,
    fun operationId storeId operation next passed found open_ permit member named => ?_,
    fun runId expectedEpoch gate next passed found pausing permit member named => ?_,
    fun runId => sound.decided⟩
  · obtain ⟨storeId, message, after, _, _, passed, named, execution⟩ := Dispatching.Step.gated step member fresh
    obtain ⟨gate, transition, found, current, allowed, _⟩ :=
      Dispatching.acquireDispatchPermit_new passed
    rw [named, execution]
    exact ⟨gate, transition, found, current, Dispatching.mayDispatch_iff.mp allowed⟩
  · have grows : state.transitions <+: last.transitions :=
      reachable.respects (fun before after => before.transitions <+: after.transitions)
        (fun _ => prefix_rfl) List.IsPrefix.trans
        (fun _ _ _ step => (Dispatching.Step.issues step).1) run
    obtain ⟨more, same⟩ := grows
    unfold Dispatching.transitionAt at found ⊢
    rw [← same, List.find?_append, found]
    rfl
  · have grows : state.Grows last :=
      reachable.respects Dispatching.Grows .refl .trans
        (fun before after there step => (step.keeps (dispatching_sound there)).1) run
    obtain ⟨later, there, keeps⟩ := grows.permits permit.sequence permit (find?_key member)
    exact ⟨later, mem_of_find? there, key_of_find? there, keeps⟩
  · obtain ⟨store, _, ⟨prepared, _⟩ | ⟨_, settled, _⟩⟩ :=
      Dispatching.prepareCrossStorePause_settled passed found
    · cases open_.symm.trans prepared
    · obtain ⟨accepted, same⟩ := settled permit member named
      exact ⟨sound.honoured member accepted, same.trans store⟩
  · obtain ⟨other, there, ⟨paused, _⟩ | ⟨_, _, settled, _⟩⟩ :=
      Dispatching.settleManagedPause_settled passed
    · cases found.symm.trans there
      cases pausing.symm.trans paused
    · exact sound.honoured member (settled permit member named)

theorem sampleManagedJob_filled : blank "sdk-managed:job" = false := by decide

def sampleDispatching : Dispatching :=
  Dispatching.enqueue
    (Dispatching.setControl ⟨∅, [], ∅, ∅, ∅, fun _ => ∅, [], []⟩ sampleName ⟨.paused, 0, 0⟩ [] none)
    [⟨1, sampleName, "managed-create", .dispatch, ⟨"sdk-managed:job", sampleManagedJob_filled⟩,
      0, false, 0⟩]

theorem sampleDispatching_reachable : dispatching.Reachable sampleDispatching := by
  refine TransitionSystem.Reachable.next (.start ⟨rfl, rfl, rfl, rfl, rfl, rfl, rfl⟩)
    (Dispatching.Step.register sampleName _ rfl nofun ⟨fun message member => ?_, ?_⟩
      fun message member => ?_)
  · rw [mem_singleton] at member
    subst member
    exact ⟨rfl, rfl, rfl⟩
  · exact nodup_singleton _
  · rw [mem_singleton] at member
    subst member
    decide

theorem dispatching_lawful_sample :
    sampleDispatching.Lawful ∧ ∃ next, sampleDispatching.resume sampleName [] = .ok next ∧
      next.Lawful := by
  refine ⟨dispatching_lawful sampleDispatching_reachable, _, rfl, ?_⟩
  exact dispatching_lawful (sampleDispatching_reachable.next
    (.resume sampleName [] _ ⟨nofun, nodup_nil⟩ nofun rfl))

open Relation

namespace Dispatching

variable {state next last : Dispatching}

/-! ### Attempts are never taken back -/

/-- Every message stays, with at least as many attempts, and a delivered one stays delivered. -/
def Tries (state next : Dispatching) : Prop :=
  ∀ sequence message, state.outbox.find? sequence = some message →
    ∃ later, next.outbox.find? sequence = some later ∧ message.attempts ≤ later.attempts ∧
      (message.delivered = true → later.delivered = true)

theorem Tries.of_outbox (same : next.outbox = state.outbox) : state.Tries next := by
  intro sequence message found
  rw [same]
  exact ⟨message, found, le_refl _, id⟩

theorem Tries.refl (state : Dispatching) : state.Tries state := .of_outbox rfl

theorem Tries.trans (early : state.Tries next) (late : next.Tries last) : state.Tries last := by
  intro sequence message found
  obtain ⟨middle, there, more, done⟩ := early sequence message found
  obtain ⟨later, here, again, still⟩ := late sequence middle there
  exact ⟨later, here, more.trans again, still ∘ done⟩

theorem enqueue_tries {runId : Identifier} {messages : List Message}
    (fresh : state.Fresh runId messages) : state.Tries (state.enqueue messages) :=
  fun _ message found => ⟨message, find?_enqueue fresh found, le_refl _, id⟩

variable {sequence : ℕ} {delivered : Bool}

variable {message waiting : Message}

theorem countAttempt_counts (found : state.outbox.find? sequence = some message) :
    ∃ later, (state.countAttempt sequence delivered).outbox.find? sequence = some later ∧
      (later.delivered = true ∨ message.attempts < later.attempts) := by
  refine ⟨_, (find?_countAttempt sequence).trans (by rw [found, map_some]), ?_⟩
  by_cases pending : message.sequence = sequence ∧ message.delivered = false
  · rw [if_pos pending]
    exact .inr (Nat.lt_succ_self _)
  · rw [if_neg pending]
    refine Or.inl ?_
    rw [not_and, Bool.not_eq_false] at pending
    exact pending (key_of_find? found)

theorem countAttempt_tries : state.Tries (state.countAttempt sequence delivered) := by
  intro name message found
  refine ⟨_, (find?_countAttempt name).trans (by rw [found, map_some]), ?_⟩
  by_cases pending : message.sequence = sequence ∧ message.delivered = false
  · rw [if_pos pending]
    refine ⟨Nat.le_succ _, fun done => ?_⟩
    rw [pending.2] at done
    cases done
  · rw [if_neg pending]
    exact ⟨le_refl _, id⟩

theorem Move.tries {flush : Flush} {left : List Flush} (move : flush.Move state next left) :
    state.Tries next := by
  have accepts : ∀ {storeId : Identifier} {sequence : ℕ} {after : Dispatching},
      state.acceptDispatchPermit storeId sequence = .ok after → state.Tries after := by
    intro storeId sequence after passed
    unfold acceptDispatchPermit at passed
    simp only [passes_iff] at passed
    obtain ⟨_, _, _, answered⟩ := passed
    cases answered
    exact .of_outbox rfl
  cases move with
  | acquire storeId message after dispatch passed =>
    obtain ⟨gate, transition, _, _, _, _, rfl⟩ := acquireDispatchPermit_new passed
    exact .of_outbox rfl
  | accept storeId message after passed => exact accepts passed
  | reconcile storeId permit after passed => exact accepts passed
  | reject storeId message => exact countAttempt_tries
  | complete storeId message => exact countAttempt_tries
  | _ => exact .of_outbox rfl

theorem Step.tries (step : state.Step next) : state.Tries next := by
  cases step with
  | move before after flush other left working moved =>
    exact (Move.tries moved).trans (.of_outbox rfl)
  | register runId messages new unheard fresh reserved =>
    exact Tries.trans (.of_outbox rfl) (enqueue_tries fresh)
  | queue runId messages fresh open_ => exact enqueue_tries fresh
  | withdraw runId messages fresh cancels => exact enqueue_tries fresh
  | requestPause runId expectedEpoch mode drain cancels after fresh withdraws passed =>
    obtain ⟨_, _, _, rfl⟩ := requestPause_settled passed
    split
    · exact Tries.trans (.of_outbox rfl) (enqueue_tries fresh)
    · exact .of_outbox rfl
  | beginPause operationId runId expectedEpoch drain storeId after passed =>
    obtain ⟨-, _, _, _, rfl⟩ := beginCrossStorePause_settled passed
    exact .of_outbox rfl
  | prepare operationId storeId after passed =>
    obtain ⟨operation, found⟩ := prepareCrossStorePause_found passed
    obtain ⟨_, _, ⟨_, rfl⟩ | ⟨_, _, _, rfl⟩⟩ := prepareCrossStorePause_settled passed found <;>
      exact .of_outbox rfl
  | finalize operationId after passed =>
    obtain ⟨_, _, _, rfl | ⟨_, _, _, rfl⟩⟩ := finalizeCrossStorePause_settled passed <;>
      exact .of_outbox rfl
  | settle runId expectedEpoch after passed =>
    obtain ⟨_, _, ⟨_, rfl⟩ | ⟨_, _, _, rfl⟩⟩ := settleManagedPause_settled passed <;>
      exact .of_outbox rfl
  | install runId after passed =>
    obtain ⟨_, _, _, rfl⟩ := installProjection_settled passed
    exact .of_outbox rfl
  | resume runId messages after fresh reserved passed =>
    obtain ⟨_, _, rfl⟩ := resume_settled passed
    exact Tries.trans (.of_outbox rfl) (enqueue_tries fresh)
  | _ => exact .of_outbox rfl

/-! ### A call of flush -/

/-- The permit of a dispatch is not given: the Run has another generation, or is closed to it, or an
earlier permit is still open. -/
def Withheld (state : Dispatching) (message : Message) : Prop :=
  ∃ gate transition, state.controls.find? message.runId = some gate ∧
    state.transitionAt message.runId gate.control.epoch = some transition ∧
    (gate.control.generation ≠ message.generation ∨
      mayDispatch gate.control transition.drainExecutionIds message.executionId = false ∨
      ∃ permit, state.permits.find? message.sequence = some permit ∧ permit.state ≠ .accepted)

/-- A flush works on one message until it is done with it, and others may step in between. What it
passes over meets a condition. -/
inductive Delivers (others : Dispatching → Dispatching → Prop)
    (condition : Dispatching → Message → Prop) (storeId : Identifier) (message : Message) :
    Dispatching → DeliveryStage → Dispatching → Prop
  | others {state next last : Dispatching} {stage : DeliveryStage} (step : others state next)
      (rest : Delivers others condition storeId message next stage last) :
      Delivers others condition storeId message state stage last
  | work {state next last : Dispatching} {stage later : DeliveryStage}
      (moved : Flush.Move state (.working storeId message stage) next
        [.working storeId message later])
      (rest : Delivers others condition storeId message next later last) :
      Delivers others condition storeId message state stage last
  /-- The permit is refused, or another one is open. -/
  | pass {state : Dispatching} (passes : condition state message)
      (dispatch : message.kind = .dispatch) (grant : DispatchGrant)
      (idle : grant = .refused ∨ grant = .outstanding)
      (passed : state.acquireDispatchPermit storeId message = .ok (grant, state)) :
      Delivers others condition storeId message state (.selected true) state
  | reject {state : Dispatching} :
      Delivers others condition storeId message state .failed
        (state.countAttempt message.sequence false)
  | complete {state : Dispatching} :
      Delivers others condition storeId message state .answered
        (state.countAttempt message.sequence true)

/-- The loop of a flush over the messages that it has taken up, each with whether it belongs to a
managed Run. -/
inductive Loops (others : Dispatching → Dispatching → Prop)
    (condition : Dispatching → Message → Prop) (storeId : Identifier) (managed : Message → Bool) :
    Dispatching → List Message → Dispatching → Prop
  | done {state : Dispatching} : Loops others condition storeId managed state [] state
  | next {state middle last : Dispatching} {message : Message} {rest : List Message}
      (delivers : Delivers others condition storeId message state (.selected (managed message))
        middle)
      (loops : Loops others condition storeId managed middle rest last) :
      Loops others condition storeId managed state (message :: rest) last

/-- A call of `flush` that returns: it reads the pending messages, later the controls, and works on
what it takes up. -/
structure Flushes (others : Dispatching → Dispatching → Prop)
    (condition : Dispatching → Message → Prop) (storeId : Identifier) (blocked : List Identifier)
    (limit : ℕ) (first scanned last : Dispatching) : Prop where
  between : ReflTransGen others first scanned
  works : Loops others condition storeId
    (fun message => (scanned.managedControlOf message.runId).isSome) scanned
    (scanned.selectMessages blocked limit first.pendingMessages) last

/-- Every message that was taken up is delivered or has been tried once more. -/
def Fair (messages : List Message) (last : Dispatching) : Prop :=
  ∀ message ∈ messages, ∃ later, last.outbox.find? message.sequence = some later ∧
    (later.delivered = true ∨ message.attempts < later.attempts)

/-- Nothing that is passed over is withheld, so nothing is passed over. -/
def Granted (state : Dispatching) (message : Message) : Prop := ¬ state.Withheld message

def Unrestricted (_ : Dispatching) (_ : Message) : Prop := True

def Alone (_ _ : Dispatching) : Prop := False

/-! ### The way out without an attempt -/

theorem acquireDispatchPermit_withheld {storeId : Identifier}
    {grant : DispatchGrant} {after : Dispatching} (idle : grant = .refused ∨ grant = .outstanding)
    (passed : state.acquireDispatchPermit storeId message = .ok (grant, after)) :
    state.Withheld message := by
  unfold acquireDispatchPermit at passed
  simp only [bind_eq_ok, present_eq_ok] at passed
  obtain ⟨gate, found, transition, current, passed⟩ := passed
  refine ⟨gate, transition, found, current, ?_⟩
  split at passed
  · rename_i other
    exact .inl other
  · split at passed
    · rename_i closed
      exact .inr (.inl closed)
    · split at passed
      · rename_i permit there
        simp only [passes_iff] at passed
        obtain ⟨_, _, answered⟩ := passed
        refine Or.inr (.inr ⟨permit, there, fun accepted => ?_⟩)
        rw [if_pos accepted] at answered
        cases answered
        rcases idle with none | none <;> cases none
      · cases passed
        rcases idle with none | none <;> cases none

section Calls

variable {others : Dispatching → Dispatching → Prop} {condition : Dispatching → Message → Prop}
  {storeId : Identifier}

section

variable (steps : ∀ state next, others state next → state.Tries next)

include steps

theorem Delivers.tries {stage : DeliveryStage}
    (delivers : Delivers others condition storeId message state stage last) : state.Tries last := by
  induction delivers with
  | others step rest hypothesis => exact (steps _ _ step).trans hypothesis
  | work moved rest hypothesis => exact (Move.tries moved).trans hypothesis
  | pass => exact .refl _
  | reject => exact countAttempt_tries
  | complete => exact countAttempt_tries

theorem Loops.tries {managed : Message → Bool} {messages : List Message}
    (loops : Loops others condition storeId managed state messages last) : state.Tries last := by
  induction loops with
  | done => exact .refl _
  | next delivers _ hypothesis => exact (delivers.tries steps).trans hypothesis

theorem tries_of_steps (run : ReflTransGen others state last) : state.Tries last := by
  induction run with
  | refl => exact .refl _
  | tail _ step hypothesis => exact hypothesis.trans (steps _ _ step)

section

variable (given : ∀ state message, condition state message → state.Granted message)

include given

theorem Delivers.counts {stage : DeliveryStage}
    (delivers : Delivers others condition storeId message state stage last) {before : Message}
    (found : state.outbox.find? message.sequence = some before) :
    ∃ later, last.outbox.find? message.sequence = some later ∧
      (later.delivered = true ∨ before.attempts < later.attempts) := by
  induction delivers generalizing before with
  | others step rest hypothesis =>
    obtain ⟨middle, there, more, -⟩ := steps _ _ step _ before found
    obtain ⟨later, here, done⟩ := hypothesis there
    exact ⟨later, here, done.imp_right more.trans_lt⟩
  | work moved rest hypothesis =>
    obtain ⟨middle, there, more, -⟩ := Move.tries moved _ before found
    obtain ⟨later, here, done⟩ := hypothesis there
    exact ⟨later, here, done.imp_right more.trans_lt⟩
  | pass passes dispatch grant idle passed =>
    exact absurd (acquireDispatchPermit_withheld idle passed) (given _ _ passes)
  | reject => exact countAttempt_counts found
  | complete => exact countAttempt_counts found

theorem Loops.fair {managed : Message → Bool} {messages : List Message}
    (loops : Loops others condition storeId managed state messages last)
    (read : ∀ message ∈ messages, ∃ now, state.outbox.find? message.sequence = some now ∧
      message.attempts ≤ now.attempts) : Fair messages last := by
  induction loops with
  | done => exact nofun
  | @next state middle last message rest delivers loops hypothesis =>
    refine forall_mem_cons.mpr ⟨?_, hypothesis fun other member => ?_⟩
    · obtain ⟨now, found, more⟩ := read message mem_cons_self
      obtain ⟨between, there, counted⟩ := delivers.counts steps given found
      obtain ⟨later, here, again, still⟩ := loops.tries steps _ between there
      exact ⟨later, here, counted.imp still fun less => more.trans_lt (less.trans_le again)⟩
    · obtain ⟨now, found, more⟩ := read other (mem_cons_of_mem _ member)
      obtain ⟨between, there, again, -⟩ := delivers.tries steps _ now found
      exact ⟨between, there, more.trans again⟩

end

theorem Flushes.read {blocked : List Identifier} {limit : ℕ} {scanned : Dispatching}
    (call : Flushes others condition storeId blocked limit state scanned last) :
    ∀ message ∈ scanned.selectMessages blocked limit state.pendingMessages,
      ∃ now, scanned.outbox.find? message.sequence = some now ∧
        message.attempts ≤ now.attempts := by
  intro message member
  have pending := (mem_pendingMessages.mp (mem_selectMessages member)).1
  obtain ⟨now, there, more, -⟩ := tries_of_steps steps call.between _ message (find?_key pending)
  exact ⟨now, there, more⟩

end

end Calls

/-! ### A call that runs alone -/

section Alone

variable {condition : Dispatching → Message → Prop} {storeId : Identifier}

theorem Move.same_outbox {flush working : Flush} {rest : List Flush}
    (move : flush.Move state next (working :: rest)) : next.outbox = state.outbox := by
  generalize more : working :: rest = left at move
  cases move with
  | acquire storeId message after dispatch passed =>
    obtain ⟨gate, transition, _, _, _, _, rfl⟩ := acquireDispatchPermit_new passed
    rfl
  | accept storeId message after passed =>
    unfold acceptDispatchPermit at passed
    simp only [passes_iff] at passed
    obtain ⟨_, _, _, answered⟩ := passed
    cases answered
    rfl
  | reject storeId message => cases more
  | complete storeId message => cases more
  | reconcile storeId permit after passed => cases more
  | _ => rfl

variable {stage : DeliveryStage}

theorem Delivers.elsewhere (delivers : Delivers Alone condition storeId message state stage last)
    (other : sequence ≠ message.sequence) :
    last.outbox.find? sequence = state.outbox.find? sequence := by
  have counted : ∀ (state : Dispatching) (delivered : Bool),
      (state.countAttempt message.sequence delivered).outbox.find? sequence =
        state.outbox.find? sequence := by
    intro state delivered
    refine (find?_countAttempt sequence).trans ?_
    cases found : state.outbox.find? sequence with
    | none => rfl
    | some row =>
      rw [map_some, if_neg fun same => other ((key_of_find? found).symm.trans same.1)]
  induction delivers with
  | others step _ _ => exact step.elim
  | work moved rest hypothesis => rw [hypothesis, Move.same_outbox moved]
  | pass => rfl
  | reject => exact counted _ _
  | complete => exact counted _ _

variable {managed : Message → Bool} {messages : List Message}

theorem Loops.elsewhere (loops : Loops Alone condition storeId managed state messages last)
    (other : ∀ message ∈ messages, sequence ≠ message.sequence) :
    last.outbox.find? sequence = state.outbox.find? sequence := by
  induction loops with
  | done => rfl
  | next delivers _ hypothesis =>
    obtain ⟨head, rest⟩ := forall_mem_cons.mp other
    rw [hypothesis rest, delivers.elsewhere head]

theorem Delivers.granted (delivers : Delivers Alone Unrestricted storeId message state stage last) :
    Delivers Alone Granted storeId message state stage last ∨ last.outbox = state.outbox := by
  induction delivers with
  | others step _ _ => exact step.elim
  | work moved rest hypothesis =>
    rcases hypothesis with granted | same
    · exact .inl (.work moved granted)
    · exact .inr (same.trans (Move.same_outbox moved))
  | pass => exact .inr rfl
  | reject => exact .inl .reject
  | complete => exact .inl .complete

theorem Loops.granted (loops : Loops Alone Unrestricted storeId managed state messages last)
    (apart : (messages.map Message.sequence).Nodup)
    (read : ∀ message ∈ messages, state.outbox.find? message.sequence = some message ∧
      message.delivered = false)
    (fair : Fair messages last) : Loops Alone Granted storeId managed state messages last := by
  induction loops with
  | done => exact .done
  | @next state middle last message rest delivers loops hypothesis =>
    rw [map_cons, nodup_cons] at apart
    have distinct : ∀ other ∈ rest, other.sequence ≠ message.sequence := fun other member same =>
      apart.1 (same ▸ mem_map_of_mem member)
    have head := read message mem_cons_self
    refine .next (delivers.granted.resolve_right fun same => ?_)
      (hypothesis apart.2 (fun other member => ?_) fun other member =>
        fair other (mem_cons_of_mem _ member))
    · obtain ⟨later, found, counted⟩ := fair message mem_cons_self
      rw [loops.elsewhere fun other member same' => distinct other member same'.symm, same,
        head.1] at found
      cases found
      rcases counted with delivered | more
      · rw [head.2] at delivered
        cases delivered
      · exact absurd more (lt_irrefl _)
    · rw [delivers.elsewhere (distinct other member)]
      exact read other (mem_cons_of_mem _ member)

end Alone

/-! ### The order of the messages -/

/-- The messages that a flush may take up, in their order. -/
def eligibleMessages (state : Dispatching) (blocked : List Identifier) (pending : List Message) :
    List Message :=
  let messages : List Message := pending.filter fun message => decide (message.runId ∉ blocked)
  let cancellations : List Identifier :=
    (messages.filter fun message => decide (message.kind = .cancel)).map Message.executionId
  let selected : List Message := messages.filter fun message =>
    decide (message.kind ≠ .dispatch ∨ message.executionId ∉ cancellations)
  selected.filter state.admits

theorem selectMessages_eq (blocked : List Identifier) (limit : ℕ) (pending : List Message) :
    state.selectMessages blocked limit pending =
      (state.eligibleMessages blocked pending).take limit := rfl

theorem eligibleMessages_sublist (blocked : List Identifier) (pending : List Message) :
    (state.eligibleMessages blocked pending).Sublist pending :=
  (filter_sublist.trans filter_sublist).trans filter_sublist

/-- `ORDER BY attempts,sequence`. -/
def Precedes (left right : Message) : Prop :=
  left.attempts < right.attempts ∨
    (left.attempts = right.attempts ∧ left.sequence ≤ right.sequence)

instance : DecidableRel Precedes := fun _ _ => inferInstanceAs (Decidable (_ ∨ _))

instance : Std.Total Precedes where
  total left right := by
    unfold Precedes
    omega

instance : IsTrans Message Precedes where
  trans left middle right := by
    unfold Precedes
    omega

theorem pendingMessages_sorted : state.pendingMessages.Pairwise Precedes :=
  pairwise_insertionSort Precedes _

theorem pendingMessages_nodup : (state.pendingMessages.map Message.sequence).Nodup := by
  have apart : (state.outbox.rows.map Message.sequence).Nodup := state.outbox.unique
  refine (((perm_insertionSort _ _).map Message.sequence).nodup_iff).mpr ?_
  exact apart.sublist (filter_sublist.map _)

variable {blocked : List Identifier}

variable {limit : ℕ}

theorem selected_precedes {first : Dispatching}
    (eligible : waiting ∈ state.eligibleMessages blocked first.pendingMessages)
    (left : waiting ∉ state.selectMessages blocked limit first.pendingMessages)
    (taken : message ∈ state.selectMessages blocked limit first.pendingMessages) :
    message.attempts ≤ waiting.attempts := by
  have sorted := first.pendingMessages_sorted.sublist
    (state.eligibleMessages_sublist blocked first.pendingMessages)
  rw [selectMessages_eq] at left taken
  rw [← take_append_drop limit (state.eligibleMessages blocked first.pendingMessages)]
    at eligible sorted
  have later := (mem_append.mp eligible).resolve_left left
  have before := (pairwise_append.mp sorted).2.2 message taken waiting later
  unfold Precedes at before
  omega

/-! ### Nobody waits for ever -/

/-- How far a message is on its way to be delivered or to be tried more often than the bound. -/
def progress (state : Dispatching) (bound sequence : ℕ) : ℕ :=
  match state.outbox.find? sequence with
  | none => 0
  | some message => if message.delivered then bound + 1 else min message.attempts (bound + 1)

theorem progress_le (bound sequence : ℕ) : state.progress bound sequence ≤ bound + 1 := by
  unfold progress
  split
  · exact Nat.zero_le _
  · split
    · exact le_refl _
    · exact min_le_right _ _

theorem Tries.progress_le (tries : state.Tries next) (bound sequence : ℕ) :
    state.progress bound sequence ≤ next.progress bound sequence := by
  cases found : state.outbox.find? sequence with
  | none =>
    unfold progress
    rw [found]
    exact Nat.zero_le _
  | some message =>
    obtain ⟨later, there, more, still⟩ := tries sequence message found
    unfold progress
    simp only [found, there]
    cases delivered : message.delivered with
    | true =>
      rw [still delivered]
      exact le_refl _
    | false =>
      by_cases done : later.delivered = true
      · rw [if_pos done]
        exact min_le_right _ _
      · rw [if_neg done]
        exact min_le_min_right _ more

theorem progress_lt {bound : ℕ} {later : Message}
    (found : state.outbox.find? message.sequence = some message)
    (pending : message.delivered = false) (within : message.attempts ≤ bound)
    (there : next.outbox.find? message.sequence = some later)
    (counted : later.delivered = true ∨ message.attempts < later.attempts) :
    state.progress bound message.sequence < next.progress bound message.sequence := by
  unfold progress
  simp only [found, there, pending]
  by_cases done : later.delivered = true
  · simp only [done, if_true]
    exact min_lt_of_left_lt (Nat.lt_succ_of_le within)
  · have more := counted.resolve_left done
    simp only [done]
    exact lt_min (min_lt_of_left_lt more) (min_lt_of_left_lt (Nat.lt_succ_of_le within))

/-- Calls of `flush` with any steps between and in them, each of which took up messages of the crowd
in place of the waiting one. -/
inductive Starves (crowd : Finset ℕ) (waiting : Message) : ℕ → Dispatching → Dispatching → Prop
  | start {state : Dispatching} : Starves crowd waiting 0 state state
  | call {calls limit : ℕ} {storeId : Identifier} {blocked : List Identifier}
      {state before first scanned last : Dispatching}
      (starved : Starves crowd waiting calls state before)
      (between : ReflTransGen Step before first)
      (flushes : Flushes Step Granted storeId blocked limit first scanned last)
      (positive : 0 < limit)
      (eligible : waiting ∈ scanned.eligibleMessages blocked first.pendingMessages)
      (left : waiting ∉ scanned.selectMessages blocked limit first.pendingMessages)
      (full : ∀ message ∈ scanned.selectMessages blocked limit first.pendingMessages,
        message.sequence ∈ crowd) :
      Starves crowd waiting (calls + 1) state last

theorem step_tries : ∀ state next : Dispatching, state.Step next → state.Tries next :=
  fun _ _ => Step.tries

variable {first scanned : Dispatching}

section

variable {storeId : Identifier}
  (call : Flushes Step Granted storeId blocked limit first scanned last)

include call

theorem Flushes.fair : Fair (scanned.selectMessages blocked limit first.pendingMessages) last :=
  call.works.fair step_tries (fun _ _ => id) (call.read step_tries)

theorem Flushes.tries : first.Tries last :=
  (tries_of_steps step_tries call.between).trans (call.works.tries step_tries)

end

theorem Starves.progress {crowd : Finset ℕ} {calls : ℕ}
    (starved : Starves crowd waiting calls state last) :
    calls ≤ ∑ sequence ∈ crowd, last.progress waiting.attempts sequence := by
  induction starved with
  | start => exact Nat.zero_le _
  | @call calls limit storeId blocked state before first scanned last starved between flushes
      positive eligible left full hypothesis =>
    have earlier : calls ≤ ∑ sequence ∈ crowd, first.progress waiting.attempts sequence :=
      hypothesis.trans (Finset.sum_le_sum fun sequence _ =>
        (tries_of_steps step_tries between).progress_le _ sequence)
    -- the first message that is taken up was tried at most as often as the one that waits
    obtain ⟨message, taken⟩ : ∃ message,
        message ∈ scanned.selectMessages blocked limit first.pendingMessages := by
      refine exists_mem_of_ne_nil _ fun none => left ?_
      rw [selectMessages_eq, take_eq_nil_iff] at none
      rw [none.resolve_left positive.ne'] at eligible
      cases eligible
    obtain ⟨later, there, counted⟩ := flushes.fair message taken
    obtain ⟨stored, pending⟩ := mem_pendingMessages.mp (mem_selectMessages taken)
    refine Nat.succ_le_of_lt (earlier.trans_lt (Finset.sum_lt_sum (fun sequence _ =>
      flushes.tries.progress_le _ sequence) ⟨message.sequence, full message taken, ?_⟩))
    exact progress_lt (find?_key stored) pending (selected_precedes eligible left taken) there
      counted

/-- What the calls of `flush` that read the pending messages in a state do for them. -/
structure FairFlushes (first : Dispatching) : Prop where
  /-- A call that meets no permit that is withheld is fair, whatever happens beside it. -/
  tried : ∀ storeId blocked limit scanned last,
    Flushes Step Granted storeId blocked limit first scanned last →
      Fair (scanned.selectMessages blocked limit first.pendingMessages) last
  /-- A call that runs alone is fair only so. -/
  needed : ∀ storeId blocked limit scanned last,
    Flushes Alone Unrestricted storeId blocked limit first scanned last →
      (Fair (scanned.selectMessages blocked limit first.pendingMessages) last ↔
        Flushes Alone Granted storeId blocked limit first scanned last)
  /-- A finite crowd keeps a message from its turn in finitely many calls only. -/
  served : ∀ crowd waiting calls last, Starves crowd waiting calls first last →
    calls ≤ crowd.card * (waiting.attempts + 1)

/-- A flush is fair as long as it does not meet a permit that is withheld. -/
theorem flush_fair (first : Dispatching) : first.FairFlushes := by
  refine ⟨fun storeId blocked limit scanned last call => call.fair,
    fun storeId blocked limit scanned last call => ⟨fun fair => ⟨call.between, ?_⟩, fun granted => ?_⟩,
    fun crowd waiting calls last starved => ?_⟩
  · have same : scanned = first := by
      rcases call.between.cases_head with same | ⟨_, step, _⟩
      · exact same.symm
      · exact step.elim
    subst same
    refine call.works.granted ?_ (fun message member => ?_) fair
    · exact scanned.pendingMessages_nodup.sublist
        (((take_sublist _ _).trans (eligibleMessages_sublist blocked _)).map _)
    · obtain ⟨stored, pending⟩ := mem_pendingMessages.mp (mem_selectMessages member)
      exact ⟨find?_key stored, pending⟩
  · exact granted.works.fair (fun _ _ => False.elim) (fun _ _ => id)
      (granted.read fun _ _ => False.elim)
  · refine starved.progress.trans ?_
    rw [← smul_eq_mul]
    exact Finset.sum_le_card_nsmul _ _ _ fun sequence _ => last.progress_le _ sequence

end Dispatching

/-! ### A permit that stays open -/

def sampleMessage : Message :=
  ⟨1, sampleName, "managed-create", .dispatch, ⟨"sdk-managed:job", sampleManagedJob_filled⟩, 0, false, 0⟩

def sampleActive : Dispatching :=
  (sampleDispatching.setControl sampleName ⟨.active, 1, 0⟩ [] none).enqueue []

def sampleDoubted : Dispatching :=
  ({ sampleActive with
    permits := sampleActive.permits.put
      ⟨1, sampleName, ⟨"sdk-managed:job", sampleManagedJob_filled⟩, 0, 1, sampleName, .inFlight⟩ }.doubtDispatchPermit
        1).countAttempt 1 false

theorem sampleDoubted_reachable : dispatching.Reachable sampleDoubted := by
  have active : dispatching.Reachable sampleActive :=
    sampleDispatching_reachable.next (.resume sampleName [] _ ⟨nofun, nodup_nil⟩ nofun rfl)
  have scanned := active.next (.scan sampleName [] 1)
  have selected := scanned.next (.move [] [] _ _ _ rfl (.select sampleName [] 1 [sampleMessage]))
  have acquired := selected.next (.move [] [] (.working sampleName sampleMessage (.selected true)) _ _
    rfl (.acquire sampleName sampleMessage _ rfl rfl))
  have doubted := acquired.next (.move [] [] _ _ _ rfl
    (.doubt sampleName sampleMessage .probing (.inr (.inl rfl))))
  have recorded := doubted.next (.move [] [] _ _ _ rfl (.record sampleName sampleMessage))
  exact recorded.next (.move [] [] _ _ _ rfl (.reject sampleName sampleMessage))

/-- A flush passes over a message whose permit is in doubt, and leaves it as it is. -/
theorem flush_passes_over : ¬ ∀ first, dispatching.Reachable first →
    ∀ storeId blocked limit scanned last,
      Dispatching.Flushes Dispatching.Step Dispatching.Unrestricted storeId blocked limit first
        scanned last →
      Dispatching.Fair (scanned.selectMessages blocked limit first.pendingMessages) last := by
  intro fair
  have call : Dispatching.Flushes Dispatching.Step Dispatching.Unrestricted sampleName [] 1
      sampleDoubted sampleDoubted sampleDoubted :=
    ⟨.refl, .next (.pass trivial rfl .outstanding (.inr rfl) rfl) .done⟩
  obtain ⟨later, found, counted⟩ := fair _ sampleDoubted_reachable _ _ _ _ _ call
    { sampleMessage with attempts := 1 } mem_cons_self
  cases found
  rcases counted with delivered | more
  · cases delivered
  · exact absurd more (lt_irrefl _)

end DispatcherSdk.Orchestrator
