/-
This file proves that the operations on the control of a Run govern: each of them is one
move of the tables of Runs, or changes nothing that is told about them.

None of them touches the life of an execution. What they ask the host is passed over
here, as it can only make them fail.
-/

import DispatcherSdk.ExecutionKernel.Refinement.Enrolment
import DispatcherSdk.ExecutionKernel.Revision

namespace DispatcherSdk.ExecutionKernel

open Library Relation

/-! ### The tables of Runs -/

/-- The tables that tell the state and the history of the controls of Runs. -/
structure RunTables where
  controls : Table RunControl.runId
  members : Table ManagedExecution.executionId
  pauses : Table PauseReceipt.operationId
  resumes : Table fun receipt : ResumeReceipt => receipt.decision.operationId
  installs : Table fun install : RevisionInstall => install.decision.decisionId
  imports : Table fun receipt : ImportReceipt => receipt.adoption.operationId

def Database.runs (database : Database) : RunTables where
  controls := database.runControls
  members := database.managedExecutions
  pauses := database.pauseReceipts
  resumes := database.resumeReceipts
  installs := database.revisionInstalls
  imports := database.legacyImports

theorem Database.SameRuns.runs {before after : Database} (same : before.SameRuns after) :
    after.runs = before.runs := by
  simp only [Database.runs, same.runControls, same.managedExecutions, same.pauseReceipts,
    same.resumeReceipts, same.revisionInstalls, same.legacyImports]

namespace RunTables

/-- A resume names the receipt, as its barrier or as its completion. -/
def Resolved (tables : RunTables) (receipt : PauseReceipt) : Prop :=
  ∃ resume ∈ tables.resumes, resume.decision.runId = receipt.runId ∧
    (resume.decision.barrierOperationId = receipt.operationId ∨
      resume.decision.completionOperationId = receipt.operationId)

/-- The Run is closed by a barrier or a fence. -/
def Closed (tables : RunTables) (runId : Identifier) : Prop :=
  ∃ receipt ∈ tables.pauses, receipt.runId = runId ∧ ¬ tables.Resolved receipt

def Fenced (tables : RunTables) (runId : Identifier) : Prop :=
  ∃ receipt ∈ tables.pauses, receipt.runId = runId ∧ receipt.isCancellationFence = true

/-- The Run was taken over from elsewhere. -/
def Imported (tables : RunTables) (runId : Identifier) : Prop :=
  ∃ receipt ∈ tables.imports, receipt.adoption.runId = runId

end RunTables

variable {receipt : PauseReceipt}

variable {database : Database}

theorem Database.resolved_runs :
    database.runs.Resolved receipt ↔ database.resolvedBarrier receipt = true := by
  simp [RunTables.Resolved, resolvedBarrier, runs, Table.mem_rows, List.any_eq_true]

theorem Database.mem_unresolvedBarriers {runId : Identifier} {receipt : PauseReceipt} :
    receipt ∈ database.unresolvedBarriers runId ↔
      receipt ∈ database.runs.pauses ∧ receipt.runId = runId ∧
        ¬ database.runs.Resolved receipt := by
  rw [resolved_runs]
  simp [unresolvedBarriers, runs, Table.mem_rows]

theorem Database.closed_runs {runId : Identifier} :
    database.runs.Closed runId ↔ database.hasUnresolvedControlBarrier runId = true := by
  have members := @mem_unresolvedBarriers database runId
  unfold hasUnresolvedControlBarrier RunTables.Closed
  constructor
  · rintro ⟨receipt, stored, owned, unresolved⟩
    cases listed : database.unresolvedBarriers runId with
    | nil =>
      have member := members.mpr ⟨stored, owned, unresolved⟩
      rw [listed] at member
      cases member
    | cons first rest => rfl
  · intro nonempty
    cases listed : database.unresolvedBarriers runId with
    | nil =>
      rw [listed] at nonempty
      cases nonempty
    | cons first rest =>
      have member : first ∈ database.unresolvedBarriers runId := by
        rw [listed]
        exact List.mem_cons_self
      exact ⟨first, members.mp member⟩

/-! ### Moves of a control -/

/-- The drain flags of all members are set anew. -/
def Redraws (before after : Table ManagedExecution.executionId)
    (allowed : ManagedExecution → Bool) : Prop :=
  ∀ executionId, after.find? executionId =
    (before.find? executionId).map fun member => { member with drainAllowed := allowed member }

/-- What may happen to the tables of Runs. -/
inductive RunMove (before : RunTables) : RunTables → Prop
  | register {runId : Identifier} {maxClaims : ℕ} {deadlineAt : Timestamp}
      (fresh : before.controls.find? runId = none) :
      RunMove before
        { before with
          controls := before.controls.put
            { runId, controlEpoch := 0, generation := 0, state := .paused, maxClaims
              claimsUsed := 0, deadlineAt } }
  | set {control : RunControl} {state : ControlState} {generation : ℕ}
      {drainIds : List Identifier} {members : Table ManagedExecution.executionId}
      (found : before.controls.find? control.runId = some control)
      (opened : ¬ before.Closed control.runId) (drainless : state ≠ .pausing → drainIds = [])
      (redraws : Redraws before.members members fun member =>
        if member.runId = control.runId then member.among control.runId generation drainIds
        else member.drainAllowed) :
      RunMove before
        { before with
          controls := before.controls.put
            { control with controlEpoch := control.controlEpoch + 1, generation, state }
          members }
  | fence {control : RunControl} {receipt : PauseReceipt}
      (found : before.controls.find? control.runId = some control)
      (fresh : before.pauses.find? receipt.operationId = none)
      (fencing : receipt.isCancellationFence = true) (owned : receipt.runId = control.runId)
      (current : receipt.controlEpoch = control.controlEpoch + 1) :
      RunMove before
        { before with
          controls := before.controls.put
            { control with state := .paused, controlEpoch := control.controlEpoch + 1 }
          pauses := before.pauses.put receipt }
  | open {control : RunControl} {receipt : PauseReceipt}
      {members : Table ManagedExecution.executionId}
      (found : before.controls.find? control.runId = some control)
      (opened : ¬ before.Closed control.runId) (still : control.state ≠ .pausing)
      (fresh : before.pauses.find? receipt.operationId = none)
      (barrier : receipt.isPauseBarrier = true) (owned : receipt.runId = control.runId)
      (current : receipt.controlEpoch = control.controlEpoch + 1)
      (generation : receipt.generation = control.generation)
      (redraws : Redraws before.members members fun member =>
        member.among control.runId control.generation receipt.drainIds || member.drainAllowed) :
      RunMove before
        { before with
          controls := before.controls.put
            { control with controlEpoch := control.controlEpoch + 1, state := .pausing }
          members
          pauses := before.pauses.put receipt }
  | close {control : RunControl} {barrier receipt : PauseReceipt}
      {members : Table ManagedExecution.executionId}
      (found : before.controls.find? control.runId = some control)
      (pausing : control.state = .pausing)
      (stored : before.pauses.find? barrier.operationId = some barrier)
      (barred : barrier.isPauseBarrier = true) (matching : barrier.runId = control.runId)
      (epoch : barrier.controlEpoch = control.controlEpoch)
      (fresh : before.pauses.find? receipt.operationId = none)
      (completes : receipt.barrierOperationId? = some barrier.operationId)
      (owned : receipt.runId = control.runId)
      (current : receipt.controlEpoch = control.controlEpoch + 1)
      (redraws : Redraws before.members members fun member =>
        !member.among control.runId control.generation barrier.drainIds &&
          member.drainAllowed) :
      RunMove before
        { before with
          controls := before.controls.put
            { control with state := .paused, controlEpoch := control.controlEpoch + 1 }
          members
          pauses := before.pauses.put receipt }
  | install {control : RunControl} {barrier : PauseReceipt} {install : RevisionInstall}
      {generation : ℕ} (found : before.controls.find? control.runId = some control)
      (paused : control.state = .paused)
      (stored : before.pauses.find? install.decision.barrierOperationId = some barrier)
      (barred : barrier.isPauseBarrier = true) :
      RunMove before
        { before with
          controls := before.controls.put
            { control with generation, controlEpoch := control.controlEpoch + 1 }
          installs := before.installs.put install }
  | resume {control : RunControl} {install : RevisionInstall} {completion : PauseReceipt}
      {resume : ResumeReceipt} (found : before.controls.find? control.runId = some control)
      (named : resume.decision.runId = control.runId)
      (paused : control.state = .paused) (installed : install ∈ before.installs)
      (source : install.decision.barrierOperationId = resume.decision.barrierOperationId)
      (stored : before.pauses.find? resume.decision.completionOperationId = some completion)
      (completed : completion.barrierOperationId?.isSome)
      (uncancelled : ¬ before.Fenced control.runId) :
      RunMove before
        { before with
          controls := before.controls.put
            { control with state := .active, controlEpoch := control.controlEpoch + 1 }
          resumes := before.resumes.put resume }
  | adopt {runId : Identifier} {controls : Table RunControl.runId}
      {members : Table ManagedExecution.executionId}
      {imports : Table fun receipt : ImportReceipt => receipt.adoption.operationId}
      (controlled : (before.Imported runId ∧ controls = before.controls) ∨
        (before.controls.find? runId = none ∧ ∃ control : RunControl, control.runId = runId ∧
          control.state = .paused ∧ control.claimsUsed ≤ control.maxClaims ∧
          controls = before.controls.put control))
      (registered : ∀ executionId, members.find? executionId = before.members.find? executionId ∨
        (before.members.find? executionId = none ∧
          ∃ member, members.find? executionId = some member ∧ member.runId = runId ∧
            member.drainAllowed = false ∧ executionId.managed = true))
      (imported : ∃ receipt ∈ imports, receipt.adoption.runId = runId)
      (kept : ∀ receipt ∈ before.imports, receipt ∈ imports)
      (own : ∀ receipt ∈ imports, receipt ∈ before.imports ∨ receipt.adoption.runId = runId) :
      RunMove before { before with controls, members, imports }

/-- What an operation that governs Runs may do to the tables. -/
inductive Govern (before after : Database) : Prop
  | rule (lives : before.SameLives after) (parents : before.SameParents after)
      (move : RunMove before.runs after.runs) : Govern before after
  | support (supports : before.Supports after) : Govern before after

/-! ### The invariant -/

/-- The controls, the receipts and the drain flags of Runs agree with each other. -/
structure RunTables.Ordered (tables : RunTables) : Prop where
  controlled : ∀ executionId member, tables.members.find? executionId = some member →
    (tables.controls.find? member.runId).isSome
  received : ∀ receipt ∈ tables.pauses, ∃ control,
    tables.controls.find? receipt.runId = some control ∧
      receipt.controlEpoch ≤ control.controlEpoch
  fenced : ∀ runId control, tables.Fenced runId →
    tables.controls.find? runId = some control → control.state = .paused
  drained : ∀ executionId member control, tables.members.find? executionId = some member →
    member.drainAllowed = true → tables.controls.find? member.runId = some control →
      control.state = .pausing ∨ tables.Fenced member.runId
  listed : ∀ executionId member control receipt,
    tables.members.find? executionId = some member → member.drainAllowed = true →
      tables.controls.find? member.runId = some control → control.state = .pausing →
        receipt ∈ tables.pauses → receipt.isPauseBarrier = true →
          receipt.runId = member.runId → receipt.controlEpoch = control.controlEpoch →
            executionId ∈ receipt.drainIds ∧ member.generation = control.generation ∧
              receipt.generation = control.generation
  installed : ∀ install ∈ tables.installs, ∃ receipt,
    tables.pauses.find? install.decision.barrierOperationId = some receipt ∧
      receipt.isPauseBarrier = true
  resumed : ∀ resume ∈ tables.resumes,
    (∃ receipt, tables.pauses.find? resume.decision.barrierOperationId = some receipt ∧
      receipt.isPauseBarrier = true) ∧
    ∃ receipt, tables.pauses.find? resume.decision.completionOperationId = some receipt ∧
      receipt.barrierOperationId?.isSome
  adopted : ∀ runId, tables.Imported runId → (tables.controls.find? runId).isSome
  bounded : ∀ runId control, tables.controls.find? runId = some control →
    control.claimsUsed ≤ control.maxClaims

theorem RunTables.Ordered.initial (storeId : Identifier) :
    (Database.initial storeId).runs.Ordered := by
  have none : ∀ {Row Key : Type} {key : Row → Key} {row : Row}, row ∉ (∅ : Table key) :=
    fun member => List.not_mem_nil member
  refine ⟨?_, ?_, ?_, ?_, ?_, ?_, ?_, ?_, ?_⟩
  · intro _ _ found
    cases found
  · exact fun _ member => absurd member none
  · rintro _ _ ⟨_, member, -⟩
    exact absurd member none
  · intro _ _ _ found
    cases found
  · intro _ _ _ _ found
    cases found
  · exact fun _ member => absurd member none
  · exact fun _ member => absurd member none
  · rintro _ ⟨_, member, -⟩
    exact absurd member none
  · intro _ _ found
    cases found

variable {tables : RunTables}

theorem RunTables.Ordered.resolved (ordered : tables.Ordered)
    (member : receipt ∈ tables.pauses) (resolved : tables.Resolved receipt) :
    receipt.isPauseBarrier = true ∨ receipt.barrierOperationId?.isSome := by
  obtain ⟨resume, stored, -, named⟩ := resolved
  obtain ⟨⟨barrier, barrierFound, barred⟩, completion, completionFound, completed⟩ :=
    ordered.resumed resume stored
  have own := Table.find?_key member
  rcases named with named | named
  · rw [named, own, Option.some.injEq] at barrierFound
    rw [barrierFound]
    exact .inl barred
  · rw [named, own, Option.some.injEq] at completionFound
    rw [completionFound]
    exact .inr completed

theorem PauseReceipt.barrier_kind (barrier : receipt.isPauseBarrier = true) :
    receipt.isCancellationFence = false ∧ receipt.barrierOperationId? = none := by
  unfold isPauseBarrier at barrier
  unfold isCancellationFence barrierOperationId?
  cases kind : receipt.fact <;> simp_all

theorem PauseReceipt.fence_kind (fencing : receipt.isCancellationFence = true) :
    receipt.isPauseBarrier = false ∧ receipt.barrierOperationId? = none := by
  unfold isCancellationFence at fencing
  unfold isPauseBarrier barrierOperationId?
  cases kind : receipt.fact <;> simp_all

theorem RunTables.Ordered.closed_of_fenced (ordered : tables.Ordered) {runId : Identifier}
    (fenced : tables.Fenced runId) :
    ∃ receipt ∈ tables.pauses, receipt.runId = runId ∧ ¬ tables.Resolved receipt ∧
      receipt.isPauseBarrier = false := by
  obtain ⟨receipt, member, owned, fencing⟩ := fenced
  have fact := PauseReceipt.fence_kind fencing
  refine ⟨receipt, member, owned, fun resolved => ?_, fact.1⟩
  rcases ordered.resolved member resolved with barrier | completion
  · rw [fact.1] at barrier
    cases barrier
  · rw [fact.2] at completion
    cases completion

/-! ### What a change has to respect -/

/-- A change of the tables of Runs that concerns one Run. What the invariant says of this one is
listed here. -/
structure RunTables.Amends (before after : RunTables) (runId : Identifier) (next : RunControl) :
    Prop where
  controls : ∀ name, after.controls.find? name =
    if name = runId then some next else before.controls.find? name
  later : ∀ control, before.controls.find? runId = some control →
    control.controlEpoch ≤ next.controlEpoch
  bounded : next.claimsUsed ≤ next.maxClaims
  foreign : ∀ executionId member, after.members.find? executionId = some member →
    member.runId ≠ runId → before.members.find? executionId = some member := by
      exact fun _ _ found _ => found
  kept : ∀ receipt ∈ before.pauses, receipt ∈ after.pauses := by exact fun _ stored => stored
  received : ∀ receipt ∈ after.pauses, receipt ∈ before.pauses ∨
    (receipt.runId = runId ∧ receipt.controlEpoch ≤ next.controlEpoch) := by
      exact fun _ stored => Or.inl stored
  fenced : after.Fenced runId → next.state = .paused
  drained : ∀ executionId member, after.members.find? executionId = some member →
    member.runId = runId → member.drainAllowed = true →
      next.state = .pausing ∨ after.Fenced runId
  listed : ∀ executionId member receipt, after.members.find? executionId = some member →
    member.runId = runId → member.drainAllowed = true → next.state = .pausing →
      receipt ∈ after.pauses → receipt.isPauseBarrier = true → receipt.runId = runId →
        receipt.controlEpoch = next.controlEpoch →
          executionId ∈ receipt.drainIds ∧ member.generation = next.generation ∧
            receipt.generation = next.generation
  installed : ∀ install ∈ after.installs, install ∈ before.installs ∨
    ∃ receipt, before.pauses.find? install.decision.barrierOperationId = some receipt ∧
      receipt.isPauseBarrier = true := by exact fun _ stored => Or.inl stored
  resumed : ∀ resume ∈ after.resumes, resume ∈ before.resumes ∨
    ((∃ receipt, before.pauses.find? resume.decision.barrierOperationId = some receipt ∧
      receipt.isPauseBarrier = true) ∧
    ∃ receipt, before.pauses.find? resume.decision.completionOperationId = some receipt ∧
      receipt.barrierOperationId?.isSome) := by exact fun _ stored => Or.inl stored
  imported : ∀ receipt ∈ after.imports, receipt ∈ before.imports ∨ receipt.adoption.runId = runId := by
    exact fun _ stored => Or.inl stored

namespace RunTables.Amends

variable {before after : RunTables} {runId : Identifier} {next : RunControl}

theorem stored (amends : before.Amends after runId next) {operationId : Identifier}
    (found : before.pauses.find? operationId = some receipt) :
    after.pauses.find? operationId = some receipt := by
  have key := Table.key_of_find? found
  subst key
  exact Table.find?_key (amends.kept receipt (Table.mem_of_find? found))

variable {name : Identifier}

section

variable (amends : before.Amends after runId next)

include amends

theorem fenced_other (other : name ≠ runId) (fenced : after.Fenced name) : before.Fenced name := by
  obtain ⟨receipt, member, owned, fencing⟩ := fenced
  rcases amends.received receipt member with old | ⟨own, -⟩
  · exact ⟨receipt, old, owned, fencing⟩
  · exact absurd (owned.symm.trans own) other

theorem fenced_mono (fenced : before.Fenced name) : after.Fenced name := by
  obtain ⟨receipt, member, owned, fencing⟩ := fenced
  exact ⟨receipt, amends.kept receipt member, owned, fencing⟩

theorem controls_some (found : (before.controls.find? name).isSome) :
    (after.controls.find? name).isSome := by
  rw [amends.controls]
  by_cases same : name = runId
  · rw [if_pos same]
    rfl
  · rw [if_neg same]
    exact found

theorem ordered (ordered : before.Ordered) : after.Ordered := by
  refine ⟨?_, ?_, ?_, ?_, ?_, ?_, ?_, ?_, ?_⟩
  · intro executionId member found
    by_cases own : member.runId = runId
    · rw [amends.controls, if_pos own]
      rfl
    · exact amends.controls_some
        (ordered.controlled executionId member (amends.foreign executionId member found own))
  · intro receipt member
    by_cases own : receipt.runId = runId
    · refine ⟨next, by rw [amends.controls, if_pos own], ?_⟩
      rcases amends.received receipt member with old | ⟨-, epoch⟩
      · obtain ⟨control, found, epoch⟩ := ordered.received receipt old
        rw [own] at found
        exact epoch.trans (amends.later control found)
      · exact epoch
    · rcases amends.received receipt member with old | ⟨same, -⟩
      · rw [amends.controls, if_neg own]
        exact ordered.received receipt old
      · exact absurd same own
  · intro name control fenced found
    rw [amends.controls] at found
    by_cases own : name = runId
    · rw [if_pos own, Option.some.injEq] at found
      rw [own] at fenced
      rw [← found]
      exact amends.fenced fenced
    · rw [if_neg own] at found
      exact ordered.fenced name control (amends.fenced_other own fenced) found
  · intro executionId member control found allowed controlled
    rw [amends.controls] at controlled
    by_cases own : member.runId = runId
    · rw [if_pos own, Option.some.injEq] at controlled
      rw [← controlled, own]
      exact amends.drained executionId member found own allowed
    · rw [if_neg own] at controlled
      exact (ordered.drained executionId member control
        (amends.foreign executionId member found own) allowed controlled).imp_right
          amends.fenced_mono
  · intro executionId member control receipt found allowed controlled pausing stored barrier
      owned epoch
    rw [amends.controls] at controlled
    by_cases own : member.runId = runId
    · rw [if_pos own, Option.some.injEq] at controlled
      subst controlled
      exact amends.listed executionId member receipt found own allowed pausing stored barrier
        (owned.trans own) epoch
    · rw [if_neg own] at controlled
      rcases amends.received receipt stored with old | ⟨same, -⟩
      · exact ordered.listed executionId member control receipt
          (amends.foreign executionId member found own) allowed controlled pausing old barrier
          owned epoch
      · exact absurd (owned.symm.trans same) own
  · intro install member
    rcases amends.installed install member with old | ⟨receipt, found, barrier⟩
    · obtain ⟨receipt, found, barrier⟩ := ordered.installed install old
      exact ⟨receipt, amends.stored found, barrier⟩
    · exact ⟨receipt, amends.stored found, barrier⟩
  · intro resume member
    have old := (amends.resumed resume member).elim (ordered.resumed resume) id
    obtain ⟨⟨barrier, barrierFound, barred⟩, completion, completionFound, completed⟩ := old
    exact ⟨⟨barrier, amends.stored barrierFound, barred⟩, completion,
      amends.stored completionFound, completed⟩
  · rintro name ⟨receipt, member, named⟩
    by_cases own : name = runId
    · rw [amends.controls, if_pos own]
      rfl
    · rcases amends.imported receipt member with old | same
      · exact amends.controls_some (ordered.adopted name ⟨receipt, old, named⟩)
      · exact absurd (named.symm.trans same) own
  · intro name control found
    rw [amends.controls] at found
    by_cases own : name = runId
    · rw [if_pos own, Option.some.injEq] at found
      rw [← found]
      exact amends.bounded
    · rw [if_neg own] at found
      exact ordered.bounded name control found

end

end RunTables.Amends

/-! ### Every move keeps the invariant -/

variable {allowed : ManagedExecution → Bool} {before after : Table ManagedExecution.executionId}

theorem Redraws.stored (redraws : Redraws before after allowed) {executionId : Identifier}
    {member : ManagedExecution} (found : after.find? executionId = some member) :
    ∃ old, before.find? executionId = some old ∧
      member = { old with drainAllowed := allowed old } := by
  rw [redraws, Option.map_eq_some_iff] at found
  obtain ⟨old, stored, same⟩ := found
  exact ⟨old, stored, same.symm⟩

theorem Redraws.foreign (redraws : Redraws before after allowed) {runId : Identifier}
    (leaves : ∀ member, member.runId ≠ runId → allowed member = member.drainAllowed)
    (executionId : Identifier) (member : ManagedExecution)
    (found : after.find? executionId = some member) (other : member.runId ≠ runId) :
    before.find? executionId = some member := by
  obtain ⟨old, stored, rfl⟩ := redraws.stored found
  rw [leaves old other]
  exact stored

variable {member : ManagedExecution} {executionIds : List Identifier}

variable {generation : ℕ}

theorem ManagedExecution.among_iff {runId : Identifier} :
    member.among runId generation executionIds = true ↔
      member.runId = runId ∧ member.generation = generation ∧
        member.executionId ∈ executionIds := by
  simp [among, and_assoc]

theorem ManagedExecution.among_other {runId : Identifier} (other : member.runId ≠ runId) :
    member.among runId generation executionIds = false := by
  simp [among, other]

theorem RunTables.Ordered.unfenced (ordered : tables.Ordered) {runId : Identifier}
    (opened : ¬ tables.Closed runId) : ¬ tables.Fenced runId := by
  intro fenced
  obtain ⟨receipt, stored, owned, unresolved, -⟩ := ordered.closed_of_fenced fenced
  exact opened ⟨receipt, stored, owned, unresolved⟩

theorem RunTables.Ordered.unreached (ordered : tables.Ordered) {control : RunControl}
    (found : tables.controls.find? control.runId = some control)
    (stored : receipt ∈ tables.pauses) (owned : receipt.runId = control.runId) :
    receipt.controlEpoch ≠ control.controlEpoch + 1 := by
  obtain ⟨current, same, epoch⟩ := ordered.received receipt stored
  rw [owned, found, Option.some.injEq] at same
  subst same
  omega

theorem RunMove.ordered {before after : RunTables} (move : RunMove before after)
    (ordered : before.Ordered) : after.Ordered := by
  have later : ∀ {control : RunControl} {runId : Identifier} {epoch : ℕ},
      before.controls.find? runId = some control → control.controlEpoch ≤ epoch →
      ∀ other, before.controls.find? runId = some other → other.controlEpoch ≤ epoch := by
    intro control runId epoch found bound other same
    rw [found, Option.some.injEq] at same
    rwa [← same]
  cases move with
  | @register runId maxClaims deadlineAt fresh =>
    have memberless : ∀ executionId member,
        before.members.find? executionId = some member → member.runId ≠ runId := by
      rintro executionId member found rfl
      have controlled := ordered.controlled executionId member found
      rw [fresh] at controlled
      cases controlled
    have amends : before.Amends { before with controls := before.controls.put _ } runId _ :=
      { controls := Table.find?_put before.controls
          { runId, controlEpoch := 0, generation := 0, state := .paused, maxClaims
            claimsUsed := 0, deadlineAt }
        later := fun control found => by
          rw [fresh] at found
          cases found
        bounded := Nat.zero_le maxClaims
        fenced := fun _ => rfl
        drained := fun executionId member found own _ =>
          absurd own (memberless executionId member found)
        listed := fun executionId member _ found own _ _ _ _ _ _ =>
          absurd own (memberless executionId member found) }
    exact amends.ordered ordered
  | @set control state generation drainIds members found opened drainless redraws =>
    have draining : ∀ {executionId member}, members.find? executionId = some member →
        member.runId = control.runId → member.drainAllowed = true → state = .pausing := by
      intro executionId member changed own allowed
      obtain ⟨old, stored, rfl⟩ := redraws.stored changed
      by_contra still
      rw [if_pos own, drainless still, ManagedExecution.among_iff] at allowed
      exact absurd allowed.2.2 List.not_mem_nil
    have amends : before.Amends
        { before with controls := before.controls.put _, members } control.runId _ :=
      { controls := Table.find?_put before.controls
          { control with controlEpoch := control.controlEpoch + 1, generation, state }
        later := later found (Nat.le_succ _)
        bounded := ordered.bounded _ control found
        foreign := redraws.foreign fun member other => if_neg other
        fenced := fun fenced => absurd fenced (ordered.unfenced opened)
        drained := fun _ _ changed own allowed => Or.inl (draining changed own allowed)
        listed := fun _ _ _ _ _ _ _ stored _ owned epoch =>
          absurd epoch (ordered.unreached found stored owned) }
    exact amends.ordered ordered
  | @fence control receipt found fresh fencing owned current =>
    have amends : before.Amends
        { before with
          controls := before.controls.put _, pauses := before.pauses.put receipt }
        control.runId _ :=
      { controls := Table.find?_put before.controls
          { control with state := .paused, controlEpoch := control.controlEpoch + 1 }
        later := later found (Nat.le_succ _)
        bounded := ordered.bounded _ control found
        kept := fun _ stored => before.pauses.mem_put_of_fresh fresh stored
        received := fun other stored => (Table.mem_put.mp stored).elim
          (fun same => Or.inr (same ▸ ⟨owned, current.le⟩)) fun old => Or.inl old.1
        fenced := fun _ => rfl
        drained := fun _ _ _ _ _ =>
          Or.inr ⟨receipt, Table.mem_put.mpr (.inl rfl), owned, fencing⟩
        listed := fun _ _ _ _ _ _ pausing => nomatch pausing }
    exact amends.ordered ordered
  | @«open» control receipt members found opened still fresh barrier owned current generation
      redraws =>
    have draining : ∀ {executionId member}, members.find? executionId = some member →
        member.runId = control.runId → member.drainAllowed = true →
          executionId ∈ receipt.drainIds ∧ member.generation = control.generation := by
      intro executionId member changed own allowed
      obtain ⟨old, stored, rfl⟩ := redraws.stored changed
      rcases Bool.or_eq_true_iff.mp allowed with listed | before
      · obtain ⟨-, same, named⟩ := ManagedExecution.among_iff.mp listed
        rw [Table.key_of_find? stored] at named
        exact ⟨named, same⟩
      · have own : old.runId = control.runId := own
        rw [← own] at found
        rcases ordered.drained executionId old control stored before found with pausing | fenced
        · exact absurd pausing still
        · rw [own] at fenced
          exact absurd fenced (ordered.unfenced opened)
    have amends : before.Amends
        { before with
          controls := before.controls.put _, members, pauses := before.pauses.put receipt }
        control.runId _ :=
      { controls := Table.find?_put before.controls
          { control with controlEpoch := control.controlEpoch + 1, state := .pausing }
        later := later found (Nat.le_succ _)
        bounded := ordered.bounded _ control found
        foreign := redraws.foreign fun member other => by
          rw [ManagedExecution.among_other other, Bool.false_or]
        kept := fun _ stored => before.pauses.mem_put_of_fresh fresh stored
        received := fun other stored => (Table.mem_put.mp stored).elim
          (fun same => Or.inr (same ▸ ⟨owned, current.le⟩)) fun old => Or.inl old.1
        fenced := by
          rintro ⟨other, stored, named, fencing⟩
          rcases Table.mem_put.mp stored with rfl | ⟨old, -⟩
          · rw [(PauseReceipt.barrier_kind barrier).1] at fencing
            cases fencing
          · exact absurd ⟨other, old, named, fencing⟩ (ordered.unfenced opened)
        drained := fun _ _ _ _ _ => Or.inl rfl
        listed := by
          intro executionId member other changed own allowed _ stored _ named epoch
          rcases Table.mem_put.mp stored with rfl | ⟨old, -⟩
          · exact ⟨(draining changed own allowed).1, (draining changed own allowed).2,
              generation⟩
          · exact absurd epoch (ordered.unreached found old named) }
    exact amends.ordered ordered
  | @close control barrier receipt members found pausing stored barred matching epoch fresh
      completes owned current redraws =>
    have cleared : ∀ {executionId member}, members.find? executionId = some member →
        member.runId = control.runId → member.drainAllowed ≠ true := by
      intro executionId member changed own allowed
      obtain ⟨old, kept, rfl⟩ := redraws.stored changed
      obtain ⟨unlisted, before⟩ := Bool.and_eq_true_iff.mp allowed
      have own : old.runId = control.runId := own
      rw [← own] at found
      obtain ⟨listed, same, -⟩ := ordered.listed executionId old control barrier kept before found
        pausing (Table.mem_of_find? stored) barred (matching.trans own.symm) epoch
      rw [← Table.key_of_find? kept] at listed
      rw [ManagedExecution.among_iff.mpr ⟨own, same, listed⟩] at unlisted
      cases unlisted
    have amends : before.Amends
        { before with
          controls := before.controls.put _, members, pauses := before.pauses.put receipt }
        control.runId _ :=
      { controls := Table.find?_put before.controls
          { control with state := .paused, controlEpoch := control.controlEpoch + 1 }
        later := later found (Nat.le_succ _)
        bounded := ordered.bounded _ control found
        foreign := redraws.foreign fun member other => by
          rw [ManagedExecution.among_other other, Bool.not_false, Bool.true_and]
        kept := fun _ stored => before.pauses.mem_put_of_fresh fresh stored
        received := fun other stored => (Table.mem_put.mp stored).elim
          (fun same => Or.inr (same ▸ ⟨owned, current.le⟩)) fun old => Or.inl old.1
        fenced := fun _ => rfl
        drained := fun _ _ changed own allowed => absurd allowed (cleared changed own)
        listed := fun _ _ _ _ _ _ pausing => nomatch pausing }
    exact amends.ordered ordered
  | @install control barrier install generation found paused stored barred =>
    have amends : before.Amends
        { before with
          controls := before.controls.put _, installs := before.installs.put install }
        control.runId _ :=
      { controls := Table.find?_put before.controls
          { control with generation, controlEpoch := control.controlEpoch + 1 }
        later := later found (Nat.le_succ _)
        bounded := ordered.bounded _ control found
        fenced := fun _ => paused
        drained := fun executionId member changed own allowed =>
          own ▸ ordered.drained executionId member control changed allowed (own ▸ found)
        listed := fun _ _ _ _ _ _ pausing => by
          rw [show control.state = .pausing from pausing] at paused
          cases paused
        installed := fun other member => (Table.mem_put.mp member).elim
          (fun same => Or.inr ⟨barrier, same ▸ stored, barred⟩) fun old => Or.inl old.1 }
    exact amends.ordered ordered
  | @resume control install completion resume found named paused installed source stored
      completed uncancelled =>
    have still : ∀ {executionId member}, before.members.find? executionId = some member →
        member.runId = control.runId → member.drainAllowed ≠ true := by
      intro executionId member kept own allowed
      rw [← own] at found uncancelled
      rcases ordered.drained executionId member control kept allowed found with pausing | fenced
      · rw [pausing] at paused
        cases paused
      · exact uncancelled fenced
    have amends : before.Amends
        { before with
          controls := before.controls.put _, resumes := before.resumes.put resume }
        control.runId _ :=
      { controls := Table.find?_put before.controls
          { control with state := .active, controlEpoch := control.controlEpoch + 1 }
        later := later found (Nat.le_succ _)
        bounded := ordered.bounded _ control found
        fenced := fun fenced => absurd fenced uncancelled
        drained := fun _ _ kept own allowed => absurd allowed (still kept own)
        listed := fun _ _ _ kept own allowed => absurd allowed (still kept own)
        resumed := fun other member => (Table.mem_put.mp member).elim
          (fun same => Or.inr (same ▸
            ⟨source ▸ ordered.installed install installed, completion, stored, completed⟩))
          fun old => Or.inl old.1 }
    exact amends.ordered ordered
  | @adopt runId controls members imports controlled registered imported kept own =>
    obtain ⟨next, amended, bound, later, quiet⟩ : ∃ next : RunControl,
        (∀ name, controls.find? name =
          if name = runId then some next else before.controls.find? name) ∧
        next.claimsUsed ≤ next.maxClaims ∧
        (∀ control, before.controls.find? runId = some control →
          control.controlEpoch ≤ next.controlEpoch) ∧
        (before.controls.find? runId = some next ∨
          (before.controls.find? runId = none ∧ next.state = .paused)) := by
      rcases controlled with ⟨known, rfl⟩ | ⟨fresh, next, rfl, paused, bound, rfl⟩
      · obtain ⟨next, found⟩ := Option.isSome_iff_exists.mp (ordered.adopted runId known)
        refine ⟨next, fun name => ?_, ordered.bounded runId next found, later found le_rfl,
          Or.inl found⟩
        by_cases same : name = runId
        · rw [if_pos same, same, found]
        · rw [if_neg same]
      · refine ⟨next, Table.find?_put before.controls next, bound, fun control found => ?_,
          Or.inr ⟨fresh, paused⟩⟩
        rw [fresh] at found
        cases found
    have known : ∀ {executionId member}, members.find? executionId = some member →
        member.drainAllowed = true → before.members.find? executionId = some member := by
      intro executionId member found allowed
      rcases registered executionId with same | ⟨-, other, same, -, refused, -⟩
      · exact same.symm.trans found
      · rw [found, Option.some.injEq] at same
        rw [← same, allowed] at refused
        cases refused
    have settled : ∀ {executionId member}, before.members.find? executionId = some member →
        member.runId = runId → before.controls.find? member.runId = some next := by
      intro executionId member found same
      rcases quiet with stored | ⟨fresh, -⟩
      · rwa [same]
      · have controlled := ordered.controlled executionId member found
        rw [same, fresh] at controlled
        cases controlled
    have amends : before.Amends { before with controls, members, imports } runId next :=
      { controls := amended
        later := later
        bounded := bound
        foreign := fun executionId member found other => by
          rcases registered executionId with same | ⟨-, added, same, owned, -⟩
          · exact same.symm.trans found
          · rw [found, Option.some.injEq] at same
            rw [← same] at owned
            exact absurd owned other
        fenced := fun fenced => by
          rcases quiet with stored | ⟨-, paused⟩
          · exact ordered.fenced runId next fenced stored
          · exact paused
        drained := fun executionId member found same allowed =>
          same ▸ ordered.drained executionId member next (known found allowed) allowed
            (settled (known found allowed) same)
        listed := fun executionId member receipt found same allowed pausing stored barrier owned
            epoch =>
          ordered.listed executionId member next receipt (known found allowed) allowed
            (settled (known found allowed) same) pausing stored barrier (owned.trans same.symm)
            epoch
        imported := own }
    exact amends.ordered ordered

open Library.Attempt Library.Checked Option Bool

variable {environment : Environment} {frame : Frame} {now : Timestamp}

theorem Govern.refl (database : Database) : Govern database database := .support (.refl _)

theorem Govern.of_eq {before after : Database} (same : after = before) : Govern before after :=
  same ▸ .refl before

/-- A change that writes neither the life of an execution nor its parent governs, if it makes a
move of the tables of Runs. -/
theorem Govern.of_move {before : Database} {authorities : Table _}
    (move : RunMove before.runs tables) :
    Govern before
      { before with
        runControls := tables.controls
        managedExecutions := tables.members
        pauseReceipts := tables.pauses
        resumeReceipts := tables.resumes
        revisionInstalls := tables.installs
        legacyImports := tables.imports
        runAuthorities := authorities } :=
  .rule ⟨rfl, rfl, rfl, rfl, rfl, fun _ => rfl⟩ (fun _ => rfl) move

/-! ### Registration and epochs -/

variable {runId : Identifier}

theorem controlSnapshot_ensures {condition : ControlSnapshot → Frame → Prop}
    (holds : ∀ value, condition value frame) :
    Ensures (controlSnapshot runId) environment frame condition := by
  unfold controlSnapshot
  exact then_read (ensures_expect fun value _ => holds value)

theorem Database.controlSnapshot_some {snapshot : ControlSnapshot}
    (found : database.controlSnapshot runId = some snapshot) :
    database.runControls.find? snapshot.control.runId = some snapshot.control ∧
      snapshot.control.runId = runId := by
  unfold Database.controlSnapshot at found
  obtain ⟨control, stored, rfl⟩ := map_eq_some_iff.mp found
  have same := Table.key_of_find? stored
  exact ⟨by rw [same]; exact stored, same⟩

theorem registerRunControlBody_governs {maxClaims : ℕ} {deadlineAt : Timestamp} :
    Relates Govern (registerRunControlBody runId maxClaims deadlineAt) environment frame := by
  unfold registerRunControlBody
  refine then_require fun _ => then_read ?_
  cases known : frame.database.controlSnapshot runId with
  | some current => exact then_require fun _ => ensures_pure (.refl _)
  | none =>
    have fresh : frame.database.runs.controls.find? runId = none := map_eq_none_iff.mp known
    refine ensures_bind (ensures_modify (controlSnapshot_ensures fun _ => ?_))
    exact Govern.of_move (@RunMove.register _ _ maxClaims deadlineAt fresh)

theorem Database.redraws_markDrain (database : Database) (selects : ManagedExecution → Bool)
    (allowed : Bool) :
    Redraws database.managedExecutions (database.markDrain selects allowed).managedExecutions
      fun member => if selects member then allowed else member.drainAllowed := by
  intro executionId
  unfold Database.markDrain
  rw [Table.find?_update]
  congr 1
  funext member
  by_cases selected : selects member = true
  · simp only [selected, if_true]
  · simp only [selected]
    rfl

variable {again : ManagedExecution → Bool}

theorem Redraws.trans {first second third : Table ManagedExecution.executionId}
    (left : Redraws first second allowed) (right : Redraws second third again) :
    Redraws first third fun member => again { member with drainAllowed := allowed member } := by
  intro executionId
  rw [right, left, Option.map_map]
  rfl

theorem Redraws.congr
    (redraws : Redraws before after allowed) (same : ∀ member, allowed member = again member) :
    Redraws before after again := by
  rwa [funext same] at redraws

theorem setRunControlBody_governs {request : ControlRequest} :
    Relates Govern (setRunControlBody request) environment frame := by
  unfold setRunControlBody
  refine then_lift fun _ valid => then_check fun _ _ => ?_
  refine then_check fun _ _ => then_read ?_
  refine then_require fun opened => then_require fun _ => ?_
  refine then_expect fun current found => ?_
  obtain ⟨found, same⟩ := Database.controlSnapshot_some found
  refine ensures_ite (fun _ => then_require fun _ => ensures_pure (.refl _))
    fun _ => ?_
  refine then_require fun epoch => then_require fun _ => ?_
  refine then_require fun _ => ensures_bind (ensures_modify ?_)
  refine controlSnapshot_ensures fun _ => ?_
  have drainless : request.state ≠ .pausing → request.drainIds = [] := by
    simp only [ControlRequest.check, ensure_bind_eq_ok, ensure_eq_ok] at valid
    exact valid.2.2.2
  have unclosed : ¬ frame.database.runs.Closed current.control.runId := by
    rw [Database.closed_runs, same]
    exact eq_false_iff.mp opened
  have move := @RunMove.set frame.database.runs _ request.state request.generation _ _ found unclosed drainless
    (((frame.database.redraws_markDrain (fun member => member.runId = request.runId) false).trans
      (Database.redraws_markDrain _
        (fun member => member.among request.runId request.generation request.drainIds)
        true)).congr fun member => by
          by_cases own : member.runId = request.runId
          · simp [own, same, ManagedExecution.among]
          · simp [own, same, ManagedExecution.among])
  rw [epoch] at move
  exact Govern.of_move move

/-! ### The cancellation fence -/

theorem insertPauseReceipt_ensures {condition : Unit → Frame → Prop} (holds : condition ()
      { frame with
        database :=
          { frame.database with
            pauseReceipts := frame.database.pauseReceipts.put receipt } }) :
    Ensures (insertPauseReceipt receipt) environment frame condition := by
  unfold insertPauseReceipt
  exact ensures_bind (ensures_ask (then_require fun _ =>
    ensures_modify holds))

theorem fenceCancelledRunBody_governs {request : FenceRequest} :
    Relates Govern (fenceCancelledRunBody request now) environment frame := by
  unfold fenceCancelledRunBody
  refine ensures_bind (ensures_ask (then_check fun _ _ => ensures_bind ?_))
  unfold fenceCancelledRunBody.record
  refine then_read ?_
  cases known : frame.database.pauseReceipts.find? request.operationId with
  | some receipt =>
    refine then_require fun _ => ensures_pure (ensures_bind ?_)
    exact checked fun _ _ => ensures_pure (.refl _)
  | none =>
    refine then_expect fun control found => ?_
    refine then_require fun current => ensures_bind (ensures_modify ?_)
    refine ensures_bind (ensures_modify (ensures_bind (insertPauseReceipt_ensures ?_)))
    refine ensures_pure (then_check fun _ _ => ensures_pure ?_)
    have same := Table.key_of_find? found
    have move := @RunMove.fence frame.database.runs control (request.receipt frame.database.storeId now)
      (by rw [same]; exact found) known rfl same.symm
      (by rw [current.2]; rfl)
    rw [current.2] at move
    exact Govern.of_move move

/-! ### The local pause -/

theorem openBarrier_governs {request : PauseRequest}
    (fresh : frame.database.pauseReceipts.find? request.operationId = none) :
    Relates Govern (openBarrier request now) environment frame := by
  unfold openBarrier
  refine then_read (then_require fun opened => ?_)
  refine then_expect fun control found => ?_
  refine then_require fun current => then_require fun _ => ?_
  refine then_check fun _ _ => then_require fun _ => ?_
  refine ensures_bind (ensures_modify (ensures_bind (ensures_modify (ensures_bind ?_))))
  refine insertPauseReceipt_ensures (then_check fun _ _ => ?_)
  refine then_check fun _ _ => ensures_pure ?_
  obtain ⟨epoch, generation, source⟩ := current
  have same := Table.key_of_find? found
  have unclosed : ¬ frame.database.runs.Closed control.runId := by
    rw [Database.closed_runs, same]
    exact eq_false_iff.mp opened
  have still : control.state ≠ .pausing := by
    rw [source]
    split <;> exact nofun
  have move := @RunMove.open frame.database.runs control (request.receipt frame.database.storeId control now) _
    (by rw [same]; exact found) unclosed still fresh rfl same.symm (by rw [epoch]; rfl)
    generation.symm
    ((frame.database.redraws_markDrain
      (fun member => member.among request.runId request.generation request.drainIds)
      true).congr fun member => by
        rw [same, generation]
        show _ = (member.among request.runId request.generation request.drainIds || _)
        cases member.among request.runId request.generation request.drainIds <;> rfl)
  rw [epoch] at move
  exact Govern.of_move move

variable {request : PauseRequest}

theorem replayPause_same :
    Ensures (replayPause request receipt) environment frame
      fun _ next => next.database = frame.database := by
  unfold replayPause
  refine then_require fun _ => then_read ?_
  exact then_check fun _ _ => ensures_pure rfl

theorem prepareControlPauseBody_governs :
    Relates Govern (prepareControlPauseBody request now) environment frame := by
  unfold prepareControlPauseBody
  refine then_check fun _ _ => then_require fun _ => ?_
  refine then_check fun _ session => then_read ?_
  cases known : frame.database.pauseReceipts.find? request.operationId with
  | some receipt => exact replayPause_same.mono fun _ _ same => .of_eq same
  | none => exact @openBarrier_governs _ ⟨frame.database, session⟩ _ _ known

theorem completeControlPauseBody_governs {request : CompletionRequest} :
    Relates Govern (completeControlPauseBody request now) environment frame := by
  unfold completeControlPauseBody
  refine then_check fun _ _ => then_read ?_
  cases known : frame.database.pauseReceipts.find? request.operationId with
  | some receipt => exact then_require fun _ => ensures_pure (.refl _)
  | none =>
    dsimp only
    unfold closeBarrier
    refine then_read (then_expect fun barrier stored => ?_)
    refine then_require fun matching => ensures_bind ?_
    refine ensures_require fun barred => then_expect fun control found => ?_
    refine then_require fun current => ensures_bind (ensures_modify ?_)
    refine ensures_bind (ensures_modify (ensures_bind (insertPauseReceipt_ensures ?_)))
    refine ensures_pure ?_
    obtain ⟨epoch, generation, pausing⟩ := current
    have same := Table.key_of_find? found
    have named := Table.key_of_find? stored
    have move := @RunMove.close frame.database.runs control barrier (request.receipt barrier.storeId now) _
      (by rw [same]; exact found) pausing (by rw [named]; exact stored) barred.1
      (matching.1.trans same.symm) (barred.2.trans epoch.symm) known
      (by rw [named]; rfl) same.symm (by rw [epoch]; rfl)
      ((frame.database.redraws_markDrain
        (fun member => member.among request.runId request.generation barrier.drainIds)
        false).congr fun member => by
          rw [same, generation]
          cases member.among request.runId request.generation barrier.drainIds <;> rfl)
    rw [epoch] at move
    exact Govern.of_move move

/-! ### Protection of a Run -/

theorem Database.supports_authorities (database : Database)
    (authorities : Table RunAuthority.runId) :
    database.Supports { database with runAuthorities := authorities } :=
  ⟨⟨rfl, rfl, rfl, rfl, rfl, fun _ => rfl⟩, ⟨rfl, rfl, rfl, rfl, rfl, rfl⟩, fun _ => rfl⟩

variable {workerCredential : Option Credential}

variable {expectedEpoch : ℕ}

theorem protectRunAuthorityBody_governs :
    Ensures (protectRunAuthorityBody runId generation expectedEpoch workerCredential now)
      environment frame fun _ next => Govern frame.database next.database := by
  unfold protectRunAuthorityBody
  refine ensures_bind (ensures_ask (then_check fun _ _ => ?_))
  refine then_check fun _ _ => then_read ?_
  refine then_require fun _ => ?_
  cases frame.database.runAuthorities.find? runId with
  | some old => exact ensures_require fun _ => .refl _
  | none => exact ensures_modify (.support (Database.supports_authorities _ _))

theorem revokeRunAuthorityBody_governs :
    Relates Govern (revokeRunAuthorityBody runId generation expectedEpoch now) environment frame := by
  unfold revokeRunAuthorityBody
  refine ensures_bind (ensures_ask (then_check fun _ _ => ?_))
  refine then_read (then_require fun _ => ?_)
  exact ensures_modify (.support (Database.supports_authorities _ _))

variable {credential : Credential}

theorem bindInitialAdmissionBody_governs {receipt : AdmissionReceipt} :
    Relates Govern (bindInitialAdmissionBody credential receipt now) environment frame := by
  unfold bindInitialAdmissionBody
  refine then_check fun _ _ => then_read ?_
  refine then_require fun _ => then_expect fun _ _ => ?_
  refine then_require fun _ => then_require fun _ => ?_
  refine ensures_bind (ensures_modify (checked fun _ _ => .support ?_))
  exact ⟨⟨rfl, rfl, rfl, rfl, rfl, fun _ => rfl⟩, ⟨rfl, rfl, rfl, rfl, rfl, rfl⟩, fun _ => rfl⟩

/-! ### Revisions -/

theorem Table.find?_filter_some {Row Key : Type} {key : Row → Key} [DecidableEq Key]
    {table : Table key} {name : Key} {condition : Row → Bool} {row : Row}
    (found : (table.find? name).filter condition = some row) :
    table.find? (key row) = some row ∧ key row = name ∧ condition row = true := by
  obtain ⟨stored, holds⟩ := filter_eq_some_iff.mp found
  have same := Table.key_of_find? stored
  exact ⟨by rw [same]; exact stored, same, holds⟩

variable {worker : Identifier × Timestamp}

theorem installRevision_ensures {decision : RevisionDecision} {principal : Identifier}
    :
    Relates Govern (installRevision decision principal worker now) environment frame := by
  unfold installRevision
  refine then_read (then_expect fun barrier found => ?_)
  refine then_require fun barred => then_require fun _ => ?_
  refine then_expect fun control controlled => ?_
  refine then_expect fun authority _ => then_require fun _ => ?_
  refine ensures_bind (ensures_modify (ensures_bind (ensures_modify (ensures_pure ?_))))
  obtain ⟨controlFound, -, current⟩ := Table.find?_filter_some controlled
  simp only [decide_and, and_eq_true, decide_eq_true_eq] at current
  have move := @RunMove.install frame.database.runs control barrier
    { decision, installedAt := now, authorizedPrincipal := principal
      workerPrincipal := worker.1, workerExpiresAt := worker.2
      targetControlEpoch := decision.sourceControlEpoch + 1
      previousGeneration := authority.generation
      previousControlEpoch := authority.controlEpoch
      previousPrincipal := authority.principal, previousExpiresAt := authority.expiresAt
      claimsUsed := control.claimsUsed, maxClaims := control.maxClaims
      deadlineAt := control.deadlineAt }
    decision.targetGeneration
    controlFound current.2.2
    (filter_eq_some_iff.mp found).1 barred.1
  rw [current.2.1] at move
  exact .rule ⟨rfl, rfl, rfl, rfl, rfl, fun _ => rfl⟩ (fun _ => rfl) move

theorem installRevisionDecisionBody_governs {decision expected : RevisionDecision}
    {proof : Identifier × Timestamp} :
    Ensures (installRevisionDecisionBody credential workerCredential decision expected proof now)
      environment frame fun _ next => Govern frame.database next.database := by
  unfold installRevisionDecisionBody
  refine then_check fun _ session => then_require fun _ => ?_
  refine then_require fun _ => then_read ?_
  refine then_require fun _ => ensures_bind ?_
  refine (ensures_forEach (fun _ next => next.database = frame.database) rfl
    fun _ _ _ same => by exact ensures_lift fun _ _ => same).mono fun _ middle same => ?_
  refine then_require fun _ => then_check fun worker session => ?_
  rw [← same]
  cases middle.database.revisionInstalls.find? decision.decisionId with
  | some install => exact then_require fun _ => ensures_pure (.refl _)
  | none =>
    refine ensures_bind ((@installRevision_ensures _ ⟨middle.database, session⟩ _ _ _ _).mono ?_)
    exact fun _ _ governs => then_check fun _ _ => ensures_pure governs

theorem activateRevisionBody_governs {decision : ActivationDecision} :
    Relates Govern (activateRevisionBody credential decision now) environment frame := by
  unfold activateRevisionBody
  refine then_check fun _ _ => then_read ?_
  refine then_lift fun _ _ => then_expect fun _ _ => ?_
  refine then_expect fun _ _ => then_expect fun _ _ => ?_
  refine then_require fun _ => then_require fun _ => ?_
  unfold activateRevisionBody.record
  refine ensures_bind (then_read ?_)
  dsimp only
  cases frame.database.activationReceipts.find? decision.operationId with
  | some receipt =>
    exact then_require fun _ => ensures_pure
      (then_check fun _ _ => ensures_pure (.refl _))
  | none =>
    refine ensures_bind (ensures_modify (ensures_pure (then_check fun _ _ => ?_)))
    refine ensures_pure (.support ?_)
    exact ⟨⟨rfl, rfl, rfl, rfl, rfl, fun _ => rfl⟩, ⟨rfl, rfl, rfl, rfl, rfl, rfl⟩,
      fun _ => rfl⟩

variable {decision : ResumeDecision}

theorem checkResume_ok {takeover : Bool} {install : RevisionInstall}
    (checked : checkResume database decision takeover = .ok install) :
    install ∈ database.revisionInstalls ∧
      install.decision.barrierOperationId = decision.barrierOperationId ∧
      (∃ completion, database.pauseReceipts.find? decision.completionOperationId = some completion ∧
          completion.barrierOperationId?.isSome) ∧
      ∀ receipt ∈ database.pauseReceipts.rows, receipt.runId = decision.runId →
        receipt.isCancellationFence = false := by
  unfold checkResume at checked
  obtain ⟨-, checked⟩ := ensure_bind_eq_ok.mp checked
  obtain ⟨stored, installed, checked⟩ := bind_eq_ok.mp checked
  obtain ⟨activation, _, checked⟩ := bind_eq_ok.mp checked
  obtain ⟨-, checked⟩ := ensure_bind_eq_ok.mp checked
  obtain ⟨_, _, checked⟩ := bind_eq_ok.mp checked
  obtain ⟨source, checked⟩ := ensure_bind_eq_ok.mp checked
  obtain ⟨completion, completed, checked⟩ := bind_eq_ok.mp checked
  obtain ⟨barrier, checked⟩ := ensure_bind_eq_ok.mp checked
  obtain ⟨uncancelled, checked⟩ := ensure_bind_eq_ok.mp checked
  cases checked
  have found := (filter_eq_some_iff.mp (ensureSome_eq_ok.mp installed)).1
  have closed := (filter_eq_some_iff.mp (ensureSome_eq_ok.mp completed)).1
  exact ⟨Table.mem_of_find? found, source.1, ⟨completion, closed, by rw [barrier]; rfl⟩,
    uncancelled⟩

theorem resumeNow_governs {takeover : Bool}
    (advances : decision.targetControlEpoch = decision.expectedControlEpoch + 1) :
    Relates Govern (resumeNow decision takeover worker now) environment frame := by
  unfold resumeNow
  refine then_read (then_lift fun install passed => ?_)
  refine then_expect fun control controlled => ?_
  refine then_expect fun authority _ => ensures_bind (ensures_modify ?_)
  refine ensures_bind (ensures_modify (ensures_pure ?_))
  obtain ⟨controlFound, same, current⟩ := Table.find?_filter_some controlled
  simp only [decide_and, and_eq_true, decide_eq_true_eq] at current
  obtain ⟨installed, source, ⟨completion, completed, closed⟩, uncancelled⟩ := checkResume_ok passed
  have unfenced : ¬ frame.database.runs.Fenced control.runId := by
    rintro ⟨receipt, stored, owned, fencing⟩
    rw [uncancelled receipt stored (owned.trans same)] at fencing
    cases fencing
  have move := @RunMove.resume frame.database.runs control install completion
    { decision, workerPrincipal := worker.1, workerExpiresAt := worker.2, resumedAt := now }
    controlFound same.symm current.2.2 installed source completed closed unfenced
  rw [current.2.1, ← advances] at move
  exact Govern.of_move move

theorem resumeRevisionBody_governs :
    Relates Govern (resumeRevisionBody credential workerCredential decision now) environment frame := by
  have advancing : ∀ {refusal : KernelError},
      Ensures (masking refusal do
        let proof ← attested (some credential) (·.resume) decision decision.runId
          "kernel:resume" refusal
        require (decision.generation ≤ maxSqliteInteger ∧
          decision.targetControlEpoch ≤ maxSqliteInteger ∧
          decision.lease.leaseFence ≤ maxSqliteInteger ∧
          decision.targetControlEpoch = decision.expectedControlEpoch + 1 ∧
          now < min proof.2 decision.leaseExpiresAt) refusal
        return proof : Probe (Identifier × Timestamp)) (environment, frame.database) frame.session
        fun _ _ => decision.targetControlEpoch = decision.expectedControlEpoch + 1 := by
    intro refusal
    refine ensures_masking (ensures_bind ((ensures_trivial _).mono fun _ _ _ => ?_))
    exact then_require fun valid => ensures_pure valid.2.2.2.1
  unfold resumeRevisionBody
  refine ensures_bind (ensures_probe (advancing.mono fun proof session advances => ?_))
  refine then_read (then_lift fun takeover _ => ?_)
  refine then_require fun _ => then_check fun worker session => ?_
  unfold resumeRevisionBody.record
  refine ensures_bind (then_read ?_)
  dsimp only
  cases frame.database.resumeReceipts.find? decision.operationId with
  | some receipt =>
    unfold replayResume
    refine then_require fun _ => then_read ?_
    refine then_require fun _ => ensures_pure ?_
    exact then_check fun _ _ => ensures_pure (.refl _)
  | none =>
    refine (@resumeNow_governs _ ⟨frame.database, session⟩ _ _ _ _ advances).mono ?_
    exact fun _ _ governs => then_check fun _ _ => ensures_pure governs

/-! ### Adoption of a Run -/

/-- Registering members of a Run changes nothing else that is told here, and each of them is new
or was there. -/
structure Registers (runId : Identifier) (before after : Database) : Prop where
  lives : before.SameLives after
  parents : before.SameParents after
  runs : after.runs = { before.runs with members := after.managedExecutions }
  members : ∀ executionId, after.managedExecutions.find? executionId =
      before.managedExecutions.find? executionId ∨
    (before.managedExecutions.find? executionId = none ∧
      ∃ member, after.managedExecutions.find? executionId = some member ∧
        member.runId = runId ∧ member.drainAllowed = false ∧ executionId.managed = true)

variable {manifest : AdoptionManifest}

section

variable {start : Database} (registers : Registers manifest.runId start database)

include registers

theorem importMember_registers (member : LegacyMember)
    (fresh : start.managedExecutions.find? member.executionId = none ∧
      member.executionId.managed = true) :
    Registers manifest.runId start (database.importMember manifest member) := by
  have put : (database.importMember manifest member).managedExecutions =
      database.managedExecutions.put
        { executionId := member.executionId, runId := manifest.runId
          generation := manifest.generation, drainAllowed := false } := by
    unfold Database.importMember
    split <;> rfl
  refine ⟨?_, ?_, ?_, fun executionId => ?_⟩
  · have lives := registers.lives
    unfold Database.importMember
    split <;> exact ⟨lives.1, lives.2, lives.3, lives.4, lives.5, lives.6⟩
  · have parents := registers.parents
    unfold Database.importMember
    split <;> exact parents
  · have runs : (database.importMember manifest member).runs =
        { database.runs with
          members := (database.importMember manifest member).managedExecutions } := by
      unfold Database.importMember
      split <;> rfl
    rw [runs, registers.runs]
  · rw [put, Table.find?_put]
    by_cases same : executionId = member.executionId
    · rw [if_pos same, same]
      exact .inr ⟨fresh.1, _, rfl, rfl, rfl, fresh.2⟩
    · rw [if_neg same]
      exact registers.members executionId

theorem importMembers_registers {members : List LegacyMember}
    (fresh : ∀ member ∈ members, start.managedExecutions.find? member.executionId = none ∧
      member.executionId.managed = true) :
    Registers manifest.runId start (members.foldl (Database.importMember manifest) database) := by
  induction members generalizing database with
  | nil => exact registers
  | cons member rest hypothesis =>
    refine hypothesis (importMember_registers registers member
      (fresh member List.mem_cons_self)) fun other later =>
        fresh other (List.mem_cons_of_mem member later)

end

theorem Registers.refl (runId : Identifier) (database : Database) :
    Registers runId database database :=
  ⟨⟨rfl, rfl, rfl, rfl, rfl, fun _ => rfl⟩, fun _ => rfl, rfl, fun _ => Or.inl rfl⟩

variable {original : ImportReceipt}

theorem continuesImport_known
    (found : database.legacyImports.find? manifest.operationId = some original)
    (continues : continuesImport database manifest worker = .ok ()) :
    original.adoption.runId = manifest.runId := by
  simp only [continuesImport, found, ensure_bind_eq_ok, ensure_eq_ok] at continues
  exact (congrArg AdoptionManifest.runId continues.1.1).symm

theorem continuesImport_new (missing : database.legacyImports.find? manifest.operationId = none)
    (continues : continuesImport database manifest worker = .ok ()) :
    database.runControls.find? manifest.runId = none := by
  simp only [continuesImport, missing, ensure_eq_ok, isNone_iff_eq_none] at continues
  exact continues.2

/-- The control that a first page brings. -/
def AdoptionManifest.control (manifest : AdoptionManifest) : RunControl where
  runId := manifest.runId
  controlEpoch := 0
  generation := manifest.generation
  state := .paused
  maxClaims := manifest.maxClaims
  claimsUsed := manifest.claimsUsed
  deadlineAt := manifest.deadlineAt

theorem beginImport_known
    (found : database.legacyImports.find? manifest.operationId = some original) :
    database.beginImport manifest worker = database := by
  simp [Database.beginImport, found]

theorem beginImport_new (missing : database.legacyImports.find? manifest.operationId = none) :
    database.beginImport manifest worker =
      { database with
        runControls := database.runControls.put manifest.control
        runAuthorities := database.runAuthorities.put
          { runId := manifest.runId, generation := manifest.generation, controlEpoch := 0
            principal := worker.1, expiresAt := worker.2, revokedAt := none } } := by
  simp [Database.beginImport, missing, AdoptionManifest.control]

theorem importPage_governs {principal : Identifier}
    (bound : manifest.claimsUsed ≤ manifest.maxClaims) :
    Relates Govern (importPage manifest principal worker now) environment frame := by
  unfold importPage
  refine then_read (then_lift fun _ continues => ?_)
  refine then_require fun admitted => then_require ?_
  refine fun named => ensures_bind (ensures_modify (ensures_pure ?_))
  have fresh : ∀ member ∈ manifest.membership,
      frame.database.managedExecutions.find? member.executionId = none ∧
        member.executionId.managed = true := by
    intro member listed
    have admits := admitted member listed
    unfold Database.admitsMember at admits
    exact ⟨isNone_iff_eq_none.mp (and_eq_true_iff.mp admits).1, named member listed⟩
  cases known : frame.database.legacyImports.find? manifest.operationId with
  | some original =>
    have registers := importMembers_registers (.refl manifest.runId frame.database) fresh
    have imported : frame.database.runs.Imported manifest.runId :=
      ⟨original, Table.mem_of_find? known, continuesImport_known known continues⟩
    have move := @RunMove.adopt frame.database.runs _ _ _ _ (.inl ⟨imported, rfl⟩)
      registers.members imported (fun _ kept => kept) fun _ kept => Or.inl kept
    rw [beginImport_known known]
    have lives := registers.lives
    refine .rule ⟨lives.1, lives.2, lives.3, lives.4, lives.5, lives.6⟩ registers.parents ?_
    have same := registers.runs
    simp only [isSome_some, if_true]
    exact same ▸ move
  | none =>
    have registers := importMembers_registers
      (.refl manifest.runId (frame.database.beginImport manifest worker))
      (by rwa [beginImport_new known])
    rw [beginImport_new known] at registers ⊢
    generalize List.foldl (Database.importMember manifest) _ manifest.membership = imported
      at registers ⊢
    have move : ∀ receipt : ImportReceipt, receipt.adoption = manifest →
        RunMove frame.database.runs
          { frame.database.runs with
            controls := frame.database.runControls.put manifest.control
            members := imported.managedExecutions
            imports := frame.database.legacyImports.put receipt } := by
      intro receipt adopted
      refine RunMove.adopt
        (.inr ⟨continuesImport_new known continues, manifest.control, rfl, rfl, bound, rfl⟩)
        registers.members ⟨receipt, Table.mem_put.mpr (.inl rfl), by rw [adopted]⟩
        (fun _ kept => Table.mem_put_of_fresh _ (by rw [adopted]; exact known) kept)
        fun other kept => ?_
      rcases Table.mem_put.mp kept with rfl | ⟨old, -⟩
      · exact .inr (by rw [adopted])
      · exact .inl old
    have lives := registers.lives
    refine .rule ⟨lives.1, lives.2, lives.3, lives.4, lives.5, lives.6⟩ registers.parents ?_
    have controls : imported.runControls = _ := congrArg RunTables.controls registers.runs
    have pauses : imported.pauseReceipts = _ := congrArg RunTables.pauses registers.runs
    have resumes : imported.resumeReceipts = _ := congrArg RunTables.resumes registers.runs
    have installs : imported.revisionInstalls = _ := congrArg RunTables.installs registers.runs
    have imports : imported.legacyImports = _ := congrArg RunTables.imports registers.runs
    simp only [Database.runs, isSome_none, false_eq_true, if_false, controls, pauses,
      resumes, installs, imports]
    exact move _ rfl

theorem importLegacyRunBody_governs :
    Relates Govern (importLegacyRunBody credential workerCredential manifest now) environment frame := by
  have bounded : ∀ {refusal : KernelError},
      Ensures (masking refusal do
        let proof ← attested (some credential) (·.adoption) manifest manifest.runId
          "kernel:import_legacy" refusal
        require (manifest.wellFormed ∧ now < manifest.isolationExpiresAt ∧ now < proof.2) refusal
        return proof : Probe (Identifier × Timestamp)) (environment, frame.database) frame.session
        fun _ _ => manifest.claimsUsed ≤ manifest.maxClaims := by
    intro refusal
    refine ensures_masking (ensures_bind ((ensures_trivial _).mono fun _ _ _ => ?_))
    exact then_require fun valid => ensures_pure valid.1.2.2.2.1
  unfold importLegacyRunBody
  refine ensures_bind (ensures_probe (bounded.mono fun proof _ bound => ?_))
  refine then_check fun worker session => then_read ?_
  refine then_require fun _ => ?_
  dsimp only
  split
  · exact then_require fun _ => ensures_pure (.refl _)
  · refine ensures_bind ((@importPage_governs _ ⟨frame.database, session⟩ _ _ _ _ bound).mono ?_)
    exact fun _ _ governs => then_check fun _ _ => ensures_pure governs

end DispatcherSdk.ExecutionKernel
