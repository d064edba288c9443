/-
This file determines when a pause across two stores can be prepared.

A pause closes the gate of a Run and is prepared once the Kernel has confirmed its own pause
and every dispatch is classified: accepted by the Kernel, or not. No permit is given to it
while the gate is closed, unless its execution is one of those that may drain, and without
one it is never delivered.
-/

import DispatcherSdk.Orchestrator.DeliveryFairness

namespace DispatcherSdk.Orchestrator

open Library Library.Checked Table Relation List
open ExecutionKernel hiding ExecutionRow OutboxRow EventRow Operation

/-! ### What a pause is prepared from -/

/-- What the Kernel says of an execution or an effect: the fields the preparation reads, with the
types it expects. -/
structure CapturedItem where
  executionId : Option Identifier
  generation : Option ℕ

/-- A row of `sdk_control_capture_pages`, of the first round. -/
structure CapturePage where
  operationId : Identifier
  page : ℕ
  captureComplete : Bool
  items : List CapturedItem

/-- The store of the SDK with what the Kernel has confirmed about pauses, and the gates that the
Kernel stores show for the Runs. -/
structure PausePreparing where
  stores : Dispatching
  /-- The operations with `kernel_receipt IS NOT NULL`. -/
  kernelReceipts : List Identifier
  /-- The operations with `kernel_pause_receipt IS NOT NULL`. -/
  kernelPauseReceipts : List Identifier
  pages : List CapturePage
  runControl : Identifier → Identifier → Option ManagedControl

namespace PausePreparing

variable (world : PausePreparing)

/-- The pages of an operation, in their order. -/
def pagesOf (operationId : Identifier) : List CapturePage :=
  world.pages.filter fun page => page.operationId = operationId

def checkCapture (operationId : Identifier) : Except SdkError Unit := do
  let pages := world.pagesOf operationId
  check (pages.length ≤ 64) (.orchestration "Kernel capture exceeds the bounded preparation limit")
  check (pages.getLast?.any CapturePage.captureComplete = true)
    (.orchestration "Kernel pause capture is incomplete")
  check (pages.map CapturePage.page = List.range pages.length)
    (.orchestration "Kernel capture pages are incomplete")
  check (∀ page ∈ pages, ∀ item ∈ page.items, item.executionId.isSome = true)
    (.orchestration "Kernel capture has invalid dependency facts")
  check (∀ page ∈ pages, ∀ item ∈ page.items, item.generation.isSome = true)
    (.orchestration "Kernel capture dependency generation is unknown")

/-- `prepare_cross_store_pause` with all that it checks. -/
def prepareCrossStorePause (operationId storeId : Identifier) : Except SdkError PausePreparing := do
  let unknown := SdkError.orchestration "control operation Kernel identity changed or is unknown"
  let observed ← present (world.stores.pauses.find? operationId) unknown
  check (observed.kernelStoreId = storeId) unknown
  check (world.runControl storeId observed.runId =
      some ⟨.paused, observed.sourceEpoch + 2, observed.generation⟩)
    (.orchestration "Kernel local pause barrier is unknown or changed")
  check (operationId ∈ world.kernelReceipts ∧ operationId ∈ world.kernelPauseReceipts)
    (.orchestration "both Kernel pause receipts are required")
  let stores ← world.stores.prepareCrossStorePause operationId storeId
  if observed.prepared then return world
  else
    world.checkCapture operationId
    return { world with stores }

inductive Step (world : PausePreparing) : PausePreparing → Prop
  /-- Everything but the preparation of a pause. -/
  | dispatch (next : Dispatching) (step : world.stores.Step next)
      (other : ∀ operationId operation, next.pauses.find? operationId = some operation →
        operation.prepared = true → ∃ earlier,
          world.stores.pauses.find? operationId = some earlier ∧ earlier.prepared = true) :
      Step world { world with stores := next }
  /-- `advance_cross_store_pause` stores the receipt of the Kernel's barrier. -/
  | advance (operationId : Identifier) (operation : PauseRow)
      (found : world.stores.pauses.find? operationId = some operation) :
      Step world { world with kernelReceipts := operationId :: world.kernelReceipts }
  /-- `complete_cross_store_pause_participant` stores the receipt of the Kernel's pause. -/
  | complete (operationId : Identifier) (operation : PauseRow)
      (found : world.stores.pauses.find? operationId = some operation)
      (received : operationId ∈ world.kernelReceipts)
      (paused : world.runControl operation.kernelStoreId operation.runId =
        some ⟨.paused, operation.sourceEpoch + 2, operation.generation⟩) :
      Step world { world with kernelPauseReceipts := operationId :: world.kernelPauseReceipts }
  /-- `capture_cross_store_pause_page` stores the next page. -/
  | capture (operationId : Identifier) (captureComplete : Bool) (items : List CapturedItem)
      (received : operationId ∈ world.kernelPauseReceipts)
      (open_ : (world.pagesOf operationId).getLast?.any CapturePage.captureComplete = false)
      (facts : ∀ item ∈ items, item.executionId.isSome = true ∧ item.generation.isSome = true) :
      Step world { world with
        pages := world.pages ++
          [⟨operationId, (world.pagesOf operationId).length, captureComplete, items⟩] }
  /-- The gates of the Kernels move. -/
  | control (runControl : Identifier → Identifier → Option ManagedControl) :
      Step world { world with runControl }
  | prepare (operationId storeId : Identifier) (next : PausePreparing)
      (passed : world.prepareCrossStorePause operationId storeId = .ok next) : Step world next

end PausePreparing

/-- New stores, and every interleaving of the steps. -/
def pausePreparing : TransitionSystem PausePreparing where
  initial world := dispatching.initial world.stores ∧ world.kernelReceipts = [] ∧
    world.kernelPauseReceipts = [] ∧ world.pages = []
  step := PausePreparing.Step

namespace Dispatching

variable {state next : Dispatching}

/-! ### Permits and their messages -/

theorem Step.permit_origin (sound : state.Sound) (step : state.Step next)
    {permit : DispatchPermit} (member : permit ∈ next.permits) :
    (∃ earlier, state.permits.find? permit.sequence = some earlier ∧ earlier.Keeps permit) ∨
      state.permits.find? permit.sequence = none ∧
      ∃ message gate transition, state.outbox.find? permit.sequence = some message ∧
        message.runId = permit.runId ∧ state.controls.find? message.runId = some gate ∧
        state.transitionAt message.runId gate.control.epoch = some transition ∧
        mayDispatch gate.control transition.drainExecutionIds message.executionId = true := by
  cases before : state.permits.find? permit.sequence with
  | some earlier =>
    obtain ⟨later, there, keeps⟩ := (Step.keeps sound step).1.permits _ earlier before
    rw [find?_key member] at there
    cases there
    exact .inl ⟨earlier, rfl, keeps⟩
  | none =>
    refine Or.inr ⟨rfl, ?_⟩
    obtain ⟨_, same | ⟨storeId, message, after, held, _, permits, passed⟩⟩ := Step.issues step
    · have there := same permit.sequence
      rw [before, find?_key member] at there
      cases there
    · obtain ⟨gate, transition, found, current, allowed, _, rfl⟩ := acquireDispatchPermit_new passed
      rw [permits] at member
      rcases mem_put.mp member with rfl | ⟨old, _⟩
      · obtain ⟨⟨row, listed, same⟩, _⟩ := sound.vouched _ held
        refine ⟨row, gate, transition, listed, same.runId, ?_, ?_, ?_⟩
        · rw [same.runId]
          exact found
        · rw [same.runId]
          exact current
        · rw [same.executionId]
          exact allowed
      · rw [find?_key old] at before
        cases before

theorem permits_matched (reachable : dispatching.Reachable state) :
    ∀ permit ∈ state.permits, ∃ message, state.outbox.find? permit.sequence = some message ∧
      message.runId = permit.runId := by
  refine reachable.invariant (fun state => ∀ permit ∈ state.permits, ∃ message,
    state.outbox.find? permit.sequence = some message ∧ message.runId = permit.runId) ?_ ?_
  · rintro first ⟨_, _, _, _, permits, _⟩
    rw [permits]
    exact nofun
  · intro before after reached matched step permit member
    have sound := dispatching_sound reached
    have found : ∃ message, before.outbox.find? permit.sequence = some message ∧
        message.runId = permit.runId := by
      rcases step.permit_origin sound member with ⟨earlier, there, keeps⟩ | ⟨_, message, _, _, there, run, _⟩
      · obtain ⟨message, listed, run⟩ := matched earlier (mem_of_find? there)
        rw [key_of_find? there] at listed
        exact ⟨message, listed, run.trans keeps.runId.symm⟩
      · exact ⟨message, there, run⟩
    obtain ⟨message, listed, run⟩ := found
    obtain ⟨later, there, same⟩ := (Step.keeps sound step).1.queued _ message listed
    exact ⟨later, there, same.runId.trans run⟩

/-! ### What the local part of the preparation checks -/

/-- The local gate is where the operation has put it. -/
def AtBarrier (state : Dispatching) (operation : PauseRow) : Prop :=
  ∃ gate, state.controls.find? operation.runId = some gate ∧
    (gate.control = ⟨.pausing, operation.sourceEpoch + 1, operation.generation⟩ ∨
      (operation.paused = true ∧
        gate.control = ⟨.paused, operation.sourceEpoch + 2, operation.generation⟩))

theorem prepareCrossStorePause_iff {operationId storeId : Identifier} {operation : PauseRow}
    (found : state.pauses.find? operationId = some operation)
    (store : operation.kernelStoreId = storeId) :
    (∃ next, state.prepareCrossStorePause operationId storeId = .ok next) ↔
      state.AtBarrier operation ∧ (operation.prepared = true ∨
        (state.pendingDispatches operation.runId).length ≤ 1000 ∧
        (∀ permit ∈ state.permits, permit.runId = operation.runId →
          permit.state = .accepted ∧ permit.kernelStoreId = operation.kernelStoreId) ∧
        ∀ message ∈ state.pendingDispatches operation.runId,
          (state.permits.find? message.sequence).map DispatchPermit.state = some .accepted) := by
  subst store
  unfold prepareCrossStorePause AtBarrier
  simp only [passes_iff, found, Option.some.injEq,
    exists_eq_left', true_and]
  constructor
  · rintro ⟨next, gate, managed, barrier, passed⟩
    refine ⟨⟨gate, managed, barrier⟩, ?_⟩
    split at passed
    · rename_i prepared
      exact .inl prepared
    · simp only [passes_iff] at passed
      obtain ⟨few, ⟨settled, pending⟩, _⟩ := passed
      exact .inr ⟨few, settled, pending⟩
  · rintro ⟨⟨gate, managed, barrier⟩, passes⟩
    by_cases prepared : operation.prepared = true
    · refine ⟨state, gate, managed, barrier, ?_⟩
      rw [if_pos prepared]
      rfl
    · obtain ⟨few, settled, pending⟩ := passes.resolve_left prepared
      refine ⟨{ state with pauses := state.pauses.put { operation with prepared := true } }, gate,
        managed, barrier, ?_⟩
      rw [if_neg prepared]
      exact bind_eq_ok.mpr ⟨(), check_eq_ok.mpr few, bind_eq_ok.mpr ⟨(),
        check_eq_ok.mpr ⟨settled, pending⟩, rfl⟩⟩

end Dispatching

namespace PausePreparing

variable {world next last : PausePreparing}

/-! ### The pages of a capture -/

theorem pagesOf_append (page : CapturePage) (operationId : Identifier) :
    pagesOf { world with pages := world.pages ++ [page] } operationId =
      if page.operationId = operationId then world.pagesOf operationId ++ [page]
      else world.pagesOf operationId := by
  unfold pagesOf
  rw [filter_append, filter_singleton]
  by_cases own : page.operationId = operationId
  · rw [if_pos own, decide_eq_true own]
    rfl
  · rw [if_neg own, decide_eq_false own]
    exact append_nil _

/-- What holds of the stores and the captured pages at any time. -/
structure Sound (world : PausePreparing) : Prop where
  reachable : dispatching.Reachable world.stores
  pages : ∀ operationId, (world.pagesOf operationId).map CapturePage.page =
    List.range (world.pagesOf operationId).length
  facts : ∀ page ∈ world.pages, ∀ item ∈ page.items,
    item.executionId.isSome = true ∧ item.generation.isSome = true

theorem Sound.keep (sound : world.Sound) (reachable : dispatching.Reachable next.stores)
    (pages : next.pages = world.pages) : next.Sound := by
  refine ⟨reachable, fun operationId => ?_, ?_⟩
  · unfold pagesOf
    rw [pages]
    exact sound.pages operationId
  · rw [pages]
    exact sound.facts

theorem prepareCrossStorePause_step {operationId storeId : Identifier}
    (passed : world.prepareCrossStorePause operationId storeId = .ok next) :
    (next.stores = world.stores ∨ world.stores.Step next.stores) ∧
      next.pages = world.pages := by
  unfold prepareCrossStorePause at passed
  simp only [passes_iff] at passed
  obtain ⟨observed, _, _, _, _, stores, prepared, passed⟩ := passed
  split at passed
  · cases passed
    exact ⟨Or.inl rfl, rfl⟩
  · simp only [bind_eq_ok] at passed
    obtain ⟨_, _, answered⟩ := passed
    cases answered
    exact ⟨Or.inr (.prepare operationId storeId stores prepared), rfl⟩

theorem Step.sound (sound : world.Sound) (step : world.Step next) : next.Sound := by
  cases step with
  | dispatch next step other => exact sound.keep (sound.reachable.next step) rfl
  | advance operationId operation found => exact sound.keep sound.reachable rfl
  | complete operationId operation found received paused => exact sound.keep sound.reachable rfl
  | control runControl => exact sound.keep sound.reachable rfl
  | prepare operationId storeId next passed =>
    obtain ⟨same | step, pages⟩ := prepareCrossStorePause_step passed
    · exact sound.keep (same ▸ sound.reachable) pages
    · exact sound.keep (sound.reachable.next step) pages
  | capture operationId captureComplete items received open_ facts =>
    refine ⟨sound.reachable, fun name => ?_, fun page member => ?_⟩
    · rw [pagesOf_append]
      split
      · rename_i own
        rw [← own, map_append, length_append, length_singleton, range_succ,
          sound.pages]
        rfl
      · exact sound.pages name
    · rcases mem_append.mp member with old | new
      · exact sound.facts page old
      · rw [mem_singleton] at new
        subst new
        exact facts

theorem pausePreparing_sound (reachable : pausePreparing.Reachable world) : world.Sound := by
  refine reachable.invariant Sound ?_ fun _ _ _ sound step => Step.sound sound step
  rintro first ⟨stores, _, _, pages⟩
  refine ⟨.start stores, fun operationId => ?_, ?_⟩
  · unfold pagesOf
    rw [pages]
    rfl
  · rw [pages]
    exact nofun

/-! ### When a pause can be prepared -/

/-- The pause is begun, the Kernel's receipts and the complete capture are there, and every permit
of the Run is accepted. -/
structure Awaits (world : PausePreparing) (operationId : Identifier) (operation : PauseRow) :
    Prop where
  begun : world.stores.pauses.find? operationId = some operation
  received : operationId ∈ world.kernelReceipts ∧ operationId ∈ world.kernelPauseReceipts
  captured : (world.pagesOf operationId).getLast?.any CapturePage.captureComplete = true
  accepted : ∀ permit ∈ world.stores.permits, permit.runId = operation.runId →
    permit.state = .accepted ∧ permit.kernelStoreId = operation.kernelStoreId

/-- The gates of both stores are where the pause has put them. -/
structure Barred (world : PausePreparing) (operation : PauseRow) : Prop where
  kernel : world.runControl operation.kernelStoreId operation.runId =
    some ⟨.paused, operation.sourceEpoch + 2, operation.generation⟩
  orchestrator : world.stores.AtBarrier operation

/-- Every dispatch of the Run that is still pending has a permit, and the preparation does not get
too large. -/
structure Classified (world : PausePreparing) (operationId : Identifier) (operation : PauseRow) :
    Prop where
  permitted : ∀ message ∈ world.stores.pendingDispatches operation.runId,
    (world.stores.permits.find? message.sequence).isSome
  bounded : (world.stores.pendingDispatches operation.runId).length ≤ 1000
  captured : (world.pagesOf operationId).length ≤ 64

theorem Sound.checkCapture_iff (sound : world.Sound) {operationId : Identifier}
    (captured : (world.pagesOf operationId).getLast?.any CapturePage.captureComplete = true) :
    world.checkCapture operationId = .ok () ↔ (world.pagesOf operationId).length ≤ 64 := by
  have facts : ∀ page ∈ world.pagesOf operationId, ∀ item ∈ page.items,
      item.executionId.isSome = true ∧ item.generation.isSome = true :=
    fun page member => sound.facts page (mem_of_mem_filter member)
  unfold checkCapture
  simp only [passes_iff, captured, sound.pages, true_and]
  exact ⟨fun passed => passed.1, fun few => ⟨few, fun page member item inside =>
    (facts page member item inside).1, fun page member item inside =>
      (facts page member item inside).2⟩⟩

/-- While the gates stay, a pause can be prepared if and only if every pending dispatch of the Run
has a permit and the limits are kept. -/
theorem prepareCrossStorePause_iff (reachable : pausePreparing.Reachable world)
    {operationId : Identifier} {operation : PauseRow} (awaits : world.Awaits operationId operation) :
    (∃ next, world.prepareCrossStorePause operationId operation.kernelStoreId = .ok next) ↔
      world.Barred operation ∧
        (operation.prepared = true ∨ world.Classified operationId operation) := by
  have sound := pausePreparing_sound reachable
  have part := Dispatching.prepareCrossStorePause_iff awaits.begun rfl
  have permitted : ∀ message ∈ world.stores.pendingDispatches operation.runId,
      (world.stores.permits.find? message.sequence).map DispatchPermit.state = some .accepted ↔
        (world.stores.permits.find? message.sequence).isSome := by
    intro message member
    cases found : world.stores.permits.find? message.sequence with
    | none => exact ⟨nofun, nofun⟩
    | some permit =>
      obtain ⟨queued, run, _⟩ := mem_filter.mp member |>.imp_right of_decide_eq_true
      have stored := mem_of_find? found
      obtain ⟨other, listed, same⟩ := Dispatching.permits_matched sound.reachable permit stored
      rw [key_of_find? found, find?_key (mem_rows.mpr queued)] at listed
      cases listed
      refine iff_of_true ?_ rfl
      rw [Option.map_some, (awaits.accepted permit stored (same.symm.trans run)).1]
  constructor
  · rintro ⟨next, passed⟩
    unfold prepareCrossStorePause at passed
    simp only [passes_iff] at passed
    obtain ⟨observed, found, _, paused, _, stores, prepared, passed⟩ := passed
    rw [awaits.begun] at found
    cases found
    obtain ⟨barrier, classified⟩ := part.mp ⟨stores, prepared⟩
    refine ⟨⟨paused, barrier⟩, ?_⟩
    split at passed
    · rename_i before
      exact .inl before
    · rename_i open_
      simp only [bind_eq_ok] at passed
      obtain ⟨_, checked, _⟩ := passed
      obtain ⟨few, _, pending⟩ := classified.resolve_left open_
      exact .inr ⟨fun message member => (permitted message member).mp (pending message member), few,
        (sound.checkCapture_iff awaits.captured).mp checked⟩
  · rintro ⟨⟨paused, barrier⟩, classified⟩
    obtain ⟨stores, prepared⟩ := part.mpr ⟨barrier, classified.imp_right fun all =>
      ⟨all.bounded, awaits.accepted, fun message member =>
        (permitted message member).mpr (all.permitted message member)⟩⟩
    have rest : ∃ next, (if operation.prepared = true then (.ok world : Except SdkError PausePreparing)
        else do
          world.checkCapture operationId
          return { world with stores }) = .ok next := by
      by_cases before : operation.prepared = true
      · exact ⟨world, if_pos before⟩
      · refine ⟨{ world with stores }, ?_⟩
        rw [if_neg before]
        exact bind_eq_ok.mpr ⟨(), (sound.checkCapture_iff awaits.captured).mpr
          (classified.resolve_left before).captured, rfl⟩
    obtain ⟨next, passed⟩ := rest
    exact ⟨next, bind_eq_ok.mpr ⟨operation, present_eq_ok.mpr awaits.begun,
      bind_eq_ok.mpr ⟨(), check_eq_ok.mpr rfl, bind_eq_ok.mpr ⟨(),
        check_eq_ok.mpr paused, bind_eq_ok.mpr ⟨(), check_eq_ok.mpr awaits.received,
          bind_eq_ok.mpr ⟨stores, prepared, passed⟩⟩⟩⟩⟩⟩

/-! ### A dispatch that never got a permit -/

end PausePreparing

namespace Dispatching

variable {state next : Dispatching}

theorem Step.pause_kept (step : state.Step next) {operationId : Identifier} {operation : PauseRow}
    (found : state.pauses.find? operationId = some operation)
    (unprepared : operation.prepared = false) :
    next.pauses.find? operationId = some operation ∨
      ∃ later, next.pauses.find? operationId = some later ∧ later.prepared = true := by
  have same : next.pauses = state.pauses → next.pauses.find? operationId = some operation :=
    fun same => same ▸ found
  cases step with
  | move before after flush other left working moved =>
    refine Or.inl ?_
    show other.pauses.find? operationId = some operation
    have kept : other.pauses = state.pauses := by
      cases moved with
      | acquire storeId message after dispatch passed =>
        obtain ⟨gate, transition, _, _, _, _, rfl⟩ := acquireDispatchPermit_new passed
        rfl
      | accept storeId message after passed =>
        unfold acceptDispatchPermit at passed
        simp only [passes_iff] at passed
        obtain ⟨_, _, _, answered⟩ := passed
        cases answered
        rfl
      | reconcile storeId permit after passed =>
        unfold acceptDispatchPermit at passed
        simp only [passes_iff] at passed
        obtain ⟨_, _, _, answered⟩ := passed
        cases answered
        rfl
      | _ => rfl
    rw [kept]
    exact found
  | requestPause runId expectedEpoch mode drain cancels after fresh withdraws passed =>
    obtain ⟨_, _, _, rfl⟩ := requestPause_settled passed
    exact .inl found
  | beginPause name runId expectedEpoch drain storeId after passed =>
    obtain ⟨new, _, _, _, rfl⟩ := beginCrossStorePause_settled passed
    refine Or.inl ((find?_put_other _ fun same => ?_).trans found)
    have own : operationId = name := same
    rw [← own, found] at new
    cases new
  | prepare name storeId after passed =>
    obtain ⟨other, there⟩ := prepareCrossStorePause_found passed
    obtain ⟨_, _, ⟨_, rfl⟩ | ⟨_, _, _, rfl⟩⟩ := prepareCrossStorePause_settled passed there
    · exact .inl found
    · by_cases own : operationId = other.operationId
      · refine Or.inr ⟨{ other with prepared := true }, ?_, rfl⟩
        rw [own]
        exact find?_put_same state.pauses { other with prepared := true }
      · have apart : operationId ≠ PauseRow.operationId { other with prepared := true } := own
        exact .inl ((find?_put_other state.pauses apart).trans found)
  | finalize name after passed =>
    obtain ⟨other, there, prepared, rfl | ⟨_, _, _, rfl⟩⟩ := finalizeCrossStorePause_settled passed
    · exact .inl found
    · refine Or.inl ((find?_put_other _ fun same => ?_).trans found)
      have own : operationId = other.operationId := same
      rw [own, key_of_find? there, there] at found
      cases found
      cases prepared.symm.trans unprepared
  | settle runId expectedEpoch after passed =>
    obtain ⟨_, _, ⟨_, rfl⟩ | ⟨_, _, _, rfl⟩⟩ := settleManagedPause_settled passed <;>
      exact .inl found
  | install runId after passed =>
    obtain ⟨_, _, _, rfl⟩ := installProjection_settled passed
    exact .inl found
  | resume runId messages after fresh reserved passed =>
    obtain ⟨_, _, rfl⟩ := resume_settled passed
    exact .inl found
  | _ => exact .inl found

end Dispatching

namespace PausePreparing

variable {world next last : PausePreparing}

/-- A dispatch of the Run has no permit, and the gate that the operation has closed does not let its
execution drain. -/
structure Stranded (world : PausePreparing) (operationId : Identifier) (operation : PauseRow)
    (gate : GateRow) (sequence : ℕ) : Prop where
  begun : world.stores.pauses.find? operationId = some operation
  unprepared : operation.prepared = false
  pausing : world.stores.controls.find? operation.runId = some gate ∧ gate.control.state = .pausing
  unpermitted : world.stores.permits.find? sequence = none
  queued : ∃ message transition, world.stores.outbox.find? sequence = some message ∧
    message.runId = operation.runId ∧ message.kind = .dispatch ∧
    world.stores.transitionAt operation.runId gate.control.epoch = some transition ∧
    message.executionId ∉ transition.drainExecutionIds

variable {operationId : Identifier} {operation : PauseRow} {gate : GateRow} {sequence : ℕ}

theorem Stranded.pending (reachable : dispatching.Reachable world.stores)
    (stranded : world.Stranded operationId operation gate sequence) :
    ∃ message ∈ world.stores.pendingDispatches operation.runId, message.sequence = sequence := by
  obtain ⟨message, _, found, run, dispatch, _⟩ := stranded.queued
  have stored := mem_of_find? found
  have name : message.sequence = sequence := key_of_find? found
  refine ⟨message, mem_filter.mpr ⟨stored, decide_eq_true ⟨run, ?_, dispatch⟩⟩, name⟩
  by_contra delivered
  have covered := (dispatching_sound reachable).kept.served message stored
    (Bool.eq_true_of_not_eq_false delivered) dispatch ⟨gate, run ▸ stranded.pausing.1⟩
  rw [name, stranded.unpermitted] at covered
  cases covered

theorem Stranded.refuses {storeId : Identifier} (reachable : dispatching.Reachable world.stores)
    (stranded : world.Stranded operationId operation gate sequence) :
    world.prepareCrossStorePause operationId storeId ≠ .ok next := by
  intro passed
  unfold prepareCrossStorePause at passed
  simp only [passes_iff] at passed
  obtain ⟨observed, found, same, _, _, stores, prepared, _⟩ := passed
  rw [stranded.begun] at found
  cases found
  obtain ⟨_, before | ⟨_, _, permitted⟩⟩ :=
    (Dispatching.prepareCrossStorePause_iff stranded.begun same).mp ⟨stores, prepared⟩
  · rw [stranded.unprepared] at before
    cases before
  · obtain ⟨message, pending, name⟩ := stranded.pending reachable
    have permit := permitted message pending
    rw [name, stranded.unpermitted] at permit
    cases permit

theorem Stranded.step
    (sound : world.Sound) (stranded : world.Stranded operationId operation gate sequence)
    (step : world.Step next) (holding : next.stores.controls.find? operation.runId = some gate) :
    next.Stranded operationId operation gate sequence := by
  have stays : next.stores = world.stores → next.Stranded operationId operation gate sequence := by
    intro same
    refine ⟨?_, stranded.unprepared, ⟨holding, stranded.pausing.2⟩, ?_, ?_⟩ <;> rw [same]
    · exact stranded.begun
    · exact stranded.unpermitted
    · exact stranded.queued
  have moves : world.stores.Step next.stores →
      (∀ later, next.stores.pauses.find? operationId = some later → later.prepared = true → False) →
      next.Stranded operationId operation gate sequence := by
    intro step unprepared
    obtain ⟨message, transition, found, run, dispatch, current, outside⟩ := stranded.queued
    have held := dispatching_sound sound.reachable
    refine ⟨(Dispatching.Step.pause_kept step stranded.begun stranded.unprepared).resolve_right
      fun ⟨later, there, prepared⟩ => unprepared later there prepared, stranded.unprepared,
      ⟨holding, stranded.pausing.2⟩, ?_, ?_⟩
    · cases issued : next.stores.permits.find? sequence with
      | none => rfl
      | some permit =>
        have name : permit.sequence = sequence := key_of_find? issued
        rcases Dispatching.Step.permit_origin held step (mem_of_find? issued) with
          ⟨earlier, there, _⟩ | ⟨_, other, row, frozen, there, _, gated, dated, allowed⟩
        · rw [name, stranded.unpermitted] at there
          cases there
        · rw [name, found] at there
          cases there
          rw [run, stranded.pausing.1] at gated
          cases gated
          rw [run, current] at dated
          cases dated
          rcases Dispatching.mayDispatch_iff.mp allowed with active | ⟨_, drains⟩
          · rw [stranded.pausing.2] at active
            cases active
          · exact absurd drains outside
    · obtain ⟨later, there, same⟩ := (Dispatching.Step.keeps held step).1.queued _ message found
      obtain ⟨more, grown⟩ := (Dispatching.Step.issues step).1
      refine ⟨later, transition, there, same.runId.trans run, same.kind.trans dispatch, ?_, ?_⟩
      · unfold Dispatching.transitionAt at current ⊢
        rw [← grown, List.find?_append, current]
        rfl
      · rw [same.executionId]
        exact outside
  cases step with
  | dispatch after step other =>
    refine moves step fun later there prepared => ?_
    obtain ⟨earlier, before, already⟩ := other operationId later there prepared
    rw [stranded.begun] at before
    cases before
    rw [stranded.unprepared] at already
    cases already
  | prepare name storeId after passed =>
    rcases (prepareCrossStorePause_step passed).1 with same | step
    · exact stays same
    · refine moves step fun later there prepared => ?_
      by_cases own : name = operationId
      · subst own
        exact stranded.refuses sound.reachable passed
      · unfold prepareCrossStorePause at passed
        simp only [passes_iff] at passed
        obtain ⟨observed, found, _, _, _, stores, local_, passed⟩ := passed
        have written : next.stores.pauses.find? operationId = some operation := by
          split at passed
          · cases passed
            exact stranded.begun
          · simp only [bind_eq_ok] at passed
            obtain ⟨_, _, answered⟩ := passed
            cases answered
            obtain ⟨_, _, ⟨_, rfl⟩ | ⟨_, _, _, rfl⟩⟩ :=
              Dispatching.prepareCrossStorePause_settled local_ found
            · exact stranded.begun
            · refine (find?_put_other _ fun same => own ?_).trans stranded.begun
              exact (key_of_find? found).symm.trans same.symm
        cases written.symm.trans there
        rw [stranded.unprepared] at prepared
        cases prepared
  | _ => exact stays rfl

/-- A step that leaves the Run where it is. -/
def Holds (runId : Identifier) (gate : GateRow) (world next : PausePreparing) : Prop :=
  world.Step next ∧ next.stores.controls.find? runId = some gate

/-- A pause can be prepared exactly when every dispatch is classified, and a stranded one keeps it
from being prepared while the Run is pausing. -/
structure Settles (world : PausePreparing) : Prop where
  prepared : ∀ operationId operation, world.Awaits operationId operation →
    ((∃ next, world.prepareCrossStorePause operationId operation.kernelStoreId = .ok next) ↔
      world.Barred operation ∧
        (operation.prepared = true ∨ world.Classified operationId operation))
  stranded : ∀ operationId operation gate sequence,
    world.Stranded operationId operation gate sequence →
    ∀ last, ReflTransGen (Holds operation.runId gate) world last → ∀ storeId next,
      last.prepareCrossStorePause operationId storeId ≠ .ok next

theorem Stranded.run (sound : world.Sound)
    (stranded : world.Stranded operationId operation gate sequence)
    (run : ReflTransGen (Holds operation.runId gate) world last) :
    last.Sound ∧ last.Stranded operationId operation gate sequence := by
  induction run with
  | refl => exact ⟨sound, stranded⟩
  | tail _ step hypothesis =>
    exact ⟨step.1.sound hypothesis.1,
      hypothesis.2.step hypothesis.1 step.1 step.2⟩

end PausePreparing

/-- In every reachable state a pause with all receipts can be prepared if and only if every pending
dispatch has a permit, within the limits. -/
theorem pausePreparing_settles {world : PausePreparing}
    (reachable : pausePreparing.Reachable world) : world.Settles := by
  refine ⟨fun operationId operation awaits =>
    PausePreparing.prepareCrossStorePause_iff reachable awaits,
    fun operationId operation gate sequence stranded last run storeId next => ?_⟩
  obtain ⟨sound, still⟩ := stranded.run (PausePreparing.pausePreparing_sound reachable) run
  exact still.refuses sound.reachable

/-! ### A pause between planning and delivery -/

def samplePlanned : Dispatching :=
  (sampleDispatching.setControl sampleName ⟨.active, 1, 0⟩ [] none).enqueue []

def samplePauseRow : PauseRow := ⟨samplePause, sampleName, 1, 0, sampleName, false, false⟩

def sampleAwaiting : PausePreparing where
  stores :=
    { samplePlanned.setControl sampleName ⟨.pausing, 2, 0⟩ [] (some .interrupt) with
      pauses := samplePlanned.pauses.put samplePauseRow }
  kernelReceipts := [samplePause]
  kernelPauseReceipts := [samplePause]
  pages := [⟨samplePause, 0, true, []⟩]
  runControl _ _ := some ⟨.paused, 3, 0⟩

theorem sampleAwaiting_reachable : pausePreparing.Reachable sampleAwaiting := by
  have unprepared : ∀ {stores next : Dispatching}, next.pauses = stores.pauses →
      ∀ operationId operation, next.pauses.find? operationId = some operation →
        operation.prepared = true → ∃ earlier,
          stores.pauses.find? operationId = some earlier ∧ earlier.prepared = true :=
    fun same operationId operation found prepared => ⟨operation, same ▸ found, prepared⟩
  have started : pausePreparing.Reachable
      ⟨⟨∅, [], ∅, ∅, ∅, fun _ => ∅, [], []⟩, [], [], [], fun _ _ => some ⟨.paused, 3, 0⟩⟩ :=
    .start ⟨⟨rfl, rfl, rfl, rfl, rfl, rfl, rfl⟩, rfl, rfl, rfl⟩
  have registered : pausePreparing.Reachable
      ⟨sampleDispatching, [], [], [], fun _ _ => some ⟨.paused, 3, 0⟩⟩ := by
    refine started.next (.dispatch _ (Dispatching.Step.register sampleName _ rfl nofun
      ⟨fun message member => ?_, nodup_singleton _⟩ fun message member => ?_) (unprepared rfl))
    · rw [mem_singleton] at member
      subst member
      exact ⟨rfl, rfl, rfl⟩
    · rw [mem_singleton] at member
      subst member
      decide
  have resumed := registered.next (.dispatch samplePlanned
    (.resume sampleName [] _ ⟨nofun, nodup_nil⟩ nofun rfl) (unprepared rfl))
  have begun : pausePreparing.Reachable { sampleAwaiting with
      kernelReceipts := [], kernelPauseReceipts := [], pages := [] } := by
    refine resumed.next (.dispatch _ (.beginPause samplePause sampleName 1 [] sampleName _ rfl) ?_)
    intro operationId operation found prepared
    have member : operation ∈ (∅ : Table PauseRow.operationId).put samplePauseRow :=
      mem_of_find? found
    rcases mem_put.mp member with rfl | ⟨old, _⟩
    · cases prepared
    · cases old
  have advanced := begun.next (.advance samplePause samplePauseRow rfl)
  have completed := advanced.next (.complete samplePause samplePauseRow rfl mem_cons_self rfl)
  exact completed.next (.capture samplePause true [] mem_cons_self rfl nofun)

theorem sampleAwaiting_awaits : sampleAwaiting.Awaits samplePause samplePauseRow :=
  ⟨rfl, ⟨mem_cons_self, mem_cons_self⟩, rfl, nofun⟩

theorem sampleAwaiting_stranded : sampleAwaiting.Stranded samplePause samplePauseRow
    ⟨sampleName, .pausing, 2, 0⟩ 1 :=
  ⟨rfl, rfl, ⟨rfl, rfl⟩, rfl, _, _, rfl, rfl, rfl, rfl, nofun⟩

theorem pausePreparing_settles_sample : sampleAwaiting.Settles :=
  pausePreparing_settles sampleAwaiting_reachable

/-- A pause with all its receipts, both gates closed and every permit accepted cannot be prepared. -/
theorem pause_not_prepared : ¬ ∀ world, pausePreparing.Reachable world →
    ∀ operationId operation, world.Awaits operationId operation → world.Barred operation →
      ∃ next, world.prepareCrossStorePause operationId operation.kernelStoreId = .ok next := by
  intro prepares
  obtain ⟨next, passed⟩ := prepares _ sampleAwaiting_reachable _ _ sampleAwaiting_awaits
    ⟨rfl, _, rfl, Or.inl rfl⟩
  exact sampleAwaiting_stranded.refuses
    (PausePreparing.pausePreparing_sound sampleAwaiting_reachable).reachable passed

end DispatcherSdk.Orchestrator
