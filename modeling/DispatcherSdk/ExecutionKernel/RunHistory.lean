/-
This file proves that the journal of an execution only goes on, and what managed Runs can rely
on: that their control tables stay in order, that nothing is admitted without their permission,
and that every lease is paid for.

Every piece of news that needs permission was permitted by the tables that the operation started
from.
-/

import DispatcherSdk.ExecutionKernel.Results

namespace DispatcherSdk.ExecutionKernel

open Library Library.Attempt Relation List Option

/-! ### The tables of Runs in every step -/

variable {before after : Database} {now : Timestamp} {tables : RunTables} {runId : Identifier}
  {row : ExecutionRow}

theorem Database.SameRuns.unresolvedBarriers (same : before.SameRuns after) (runId : Identifier) :
    after.unresolvedBarriers runId = before.unresolvedBarriers runId := by
  unfold Database.unresolvedBarriers Database.resolvedBarrier
  rw [same.pauseReceipts, same.resumeReceipts]

theorem Database.charged_runs (database : Database) (executionId : Identifier) :
    (database.controlOf executionId = none ∧ database.charged executionId = database) ∨
    ∃ member control, database.managedExecutions.find? executionId = some member ∧
      database.runControls.find? member.runId = some control ∧
      database.charged executionId =
        { database with
          runControls := database.runControls.put
            { control with claimsUsed := control.claimsUsed + 1 } } := by
  unfold Database.charged
  cases controlled : database.controlOf executionId with
  | none => exact .inl ⟨rfl, rfl⟩
  | some control =>
    obtain ⟨member, found, stored⟩ := bind_eq_some_iff.mp controlled
    exact .inr ⟨member, control, found, stored, rfl⟩

variable {database : Database} {executionId : Identifier}

theorem RunTables.Ordered.spend {need : Need}
    (ordered : database.runs.Ordered) (allowed : database.Allows executionId now need) :
    (database.spend executionId need).runs.Ordered := by
  cases need with
  | nothing | work | opening => exact ordered
  | claim =>
    show (database.charged executionId).runs.Ordered
    rcases Database.charged_runs database executionId with
      ⟨-, same⟩ | ⟨member, control, found, stored, same⟩
    · rw [same]
      exact ordered
    · rw [same]
      have own : control.runId = member.runId := Table.key_of_find? stored
      have controlled : database.controlOf executionId = some control :=
        bind_eq_some_iff.mpr ⟨member, found, stored⟩
      have present : database.runs.controls.find? control.runId = some control := by
        rw [own]
        exact stored
      have amends : database.runs.Amends
          { database.runs with controls := database.runs.controls.put _ } control.runId _ :=
        { controls := Table.find?_put database.runs.controls
            { control with claimsUsed := control.claimsUsed + 1 }
          later := fun other same => by
            rw [present, Option.some.injEq] at same
            rw [← same]
          bounded := allowed.2 control controlled
          fenced := fun fenced => ordered.fenced control.runId control fenced present
          drained := fun executionId member found own allowed =>
            own ▸ ordered.drained executionId member control found allowed (own ▸ present)
          listed := fun executionId member receipt found own allowed pausing stored barrier
              owned epoch =>
            ordered.listed executionId member control receipt found allowed (own ▸ present)
              pausing stored barrier (owned.trans own.symm) epoch }
      exact amends.ordered ordered

theorem Work.ordered (work : Work now before after)
    (ordered : before.runs.Ordered) : after.runs.Ordered := by
  cases work with
  | move allowed rewrites =>
    rw [rewrites.sameRuns.runs]
    exact ordered.spend allowed
  | support supports =>
    rw [supports.runs.runs]
    exact ordered

theorem RunTables.Ordered.register (ordered : tables.Ordered)
    {member : ManagedExecution} {control : RunControl}
    (stored : tables.controls.find? member.runId = some control)
    (refused : member.drainAllowed = false) :
    RunTables.Ordered { tables with members := tables.members.put member } := by
  have own : control.runId = member.runId := Table.key_of_find? stored
  have known : ∀ {executionId other}, (tables.members.put member).find? executionId = some other →
      (executionId = member.executionId ∧ other = member) ∨
        tables.members.find? executionId = some other := by
    intro executionId other found
    rw [Table.find?_put] at found
    by_cases same : executionId = member.executionId
    · rw [if_pos same, Option.some.injEq] at found
      exact .inl ⟨same, found.symm⟩
    · rw [if_neg same] at found
      exact .inr found
  have old : ∀ {executionId other},
      (tables.members.put member).find? executionId = some other → other.drainAllowed = true →
        tables.members.find? executionId = some other := by
    intro executionId other found allowed
    rcases known found with ⟨-, same⟩ | stored
    · rw [same, refused] at allowed
      cases allowed
    · exact stored
  have amends : tables.Amends { tables with members := tables.members.put member }
      member.runId control :=
    { controls := fun name => by
        by_cases same : name = member.runId
        · rw [if_pos same, same]
          exact stored
        · rw [if_neg same]
      later := fun other same => by
        rw [stored, Option.some.injEq] at same
        rw [same]
      bounded := ordered.bounded _ control stored
      foreign := fun executionId other found different => by
        rcases known found with ⟨-, same⟩ | stored
        · exact absurd (congrArg ManagedExecution.runId same) different
        · exact stored
      fenced := fun fenced => ordered.fenced member.runId control fenced stored
      drained := fun executionId other found same allowed =>
        same ▸ ordered.drained executionId other control (old found allowed) allowed (same ▸ stored)
      listed := fun executionId other receipt found same allowed pausing kept barrier owned
          epoch =>
        ordered.listed executionId other control receipt (old found allowed) allowed
          (same ▸ stored) pausing kept barrier (owned.trans same.symm) epoch }
  exact amends.ordered ordered

theorem RunTables.Ordered.attest (ordered : tables.Ordered)
    {receipt : PauseReceipt} {control : RunControl}
    (fresh : tables.pauses.find? receipt.operationId = none)
    (absent : receipt.isPauseBarrier = false ∧ receipt.isCancellationFence = false)
    (stored : tables.controls.find? receipt.runId = some control)
    (current : receipt.controlEpoch ≤ control.controlEpoch) :
    RunTables.Ordered { tables with pauses := tables.pauses.put receipt } := by
  have own : control.runId = receipt.runId := Table.key_of_find? stored
  have unfenced : RunTables.Fenced { tables with pauses := tables.pauses.put receipt }
      receipt.runId → tables.Fenced receipt.runId := by
    rintro ⟨other, member, named, fencing⟩
    rcases Table.mem_put.mp member with rfl | ⟨old, -⟩
    · rw [absent.2] at fencing
      cases fencing
    · exact ⟨other, old, named, fencing⟩
  have mono : tables.Fenced receipt.runId →
      RunTables.Fenced { tables with pauses := tables.pauses.put receipt } receipt.runId := by
    rintro ⟨other, member, named, fencing⟩
    exact ⟨other, tables.pauses.mem_put_of_fresh fresh member, named, fencing⟩
  have amends : tables.Amends { tables with pauses := tables.pauses.put receipt }
      receipt.runId control :=
    { controls := fun name => by
        by_cases same : name = receipt.runId
        · rw [if_pos same, same]
          exact stored
        · rw [if_neg same]
      later := fun other same => by
        rw [stored, Option.some.injEq] at same
        rw [same]
      bounded := ordered.bounded _ control stored
      kept := fun _ stored => tables.pauses.mem_put_of_fresh fresh stored
      received := fun other member => (Table.mem_put.mp member).elim
        (fun same => Or.inr ⟨by rw [same], by rw [same]; exact current⟩) fun old => Or.inl old.1
      fenced := fun fenced => ordered.fenced receipt.runId control (unfenced fenced) stored
      drained := fun executionId other found same allowed =>
        (ordered.drained executionId other control found allowed (same ▸ stored)).imp_right
          fun fenced => mono (same ▸ fenced)
      listed := fun executionId other barrier found same allowed pausing kept barred owned
          epoch => by
        rcases Table.mem_put.mp kept with rfl | ⟨old, -⟩
        · rw [absent.1] at barred
          cases barred
        · exact ordered.listed executionId other control barrier found allowed (same ▸ stored)
            pausing old barred (owned.trans same.symm) epoch }
  exact amends.ordered ordered

variable {may : Identifier → Identifier → Prop}

theorem Enrol.ordered
    (enrol : Enrol may now before after) (ordered : before.runs.Ordered) : after.runs.Ordered := by
  cases enrol with
  | @register executionId runId generation fresh unregistered controlled =>
    obtain ⟨control, stored⟩ := isSome_iff_exists.mp controlled
    exact @RunTables.Ordered.register _ ordered ⟨executionId, runId, generation, false⟩ _ stored rfl
  | submit active rewrites =>
    rw [rewrites.sameRuns.runs]
    exact ordered
  | refuse rewrites =>
    rw [rewrites.sameRuns.runs]
    exact ordered
  | bind permitted _ _ lives runs =>
    rw [runs.runs]
    exact ordered
  | attest fresh absent current =>
    obtain ⟨control, stored, epoch⟩ := current
    exact ordered.attest fresh ⟨absent.1, absent.2.1⟩ stored epoch
  | support supports =>
    rw [supports.runs.runs]
    exact ordered

theorem Step.ordered (step : Step now before after)
    (ordered : before.runs.Ordered) : after.runs.Ordered := by
  cases step with
  | work works =>
    exact keeps_of_links (fun database : Database => database.runs.Ordered)
      (fun holds link => link.ordered holds) ordered works
  | enrol enrols =>
    exact keeps_of_links (fun database : Database => database.runs.Ordered)
      (fun holds link => link.ordered holds) ordered enrols
  | govern governs =>
    cases governs with
    | rule lives parents move => exact move.ordered ordered
    | support supports =>
      rw [supports.runs.runs]
      exact ordered

theorem kernel_ordered {state : KernelState} (reachable : kernel.Reachable state) :
    state.database.runs.Ordered := by
  refine reachable.invariant (fun state => state.database.runs.Ordered) ?_ ?_
  · rintro _ ⟨storeId, rfl⟩
    exact RunTables.Ordered.initial storeId
  · intro state next reached ordered step
    rcases (reachable_advances reached step).tables with same | ⟨now, -, -, moved⟩
    · rw [same]
      exact ordered
    · exact moved.ordered ordered

/-! ### Permission only shrinks within an operation -/

theorem Database.drainBarrierAllows_iff :
    database.drainBarrierAllows runId executionId = true ↔ ∃ member control,
      database.managedExecutions.find? executionId = some member ∧
      database.runControls.find? runId = some control ∧ member.runId = runId ∧
      member.generation = control.generation ∧ member.drainAllowed = true ∧
      control.state = .pausing ∧ ∀ receipt ∈ database.unresolvedBarriers runId,
        receipt.passes control executionId = true := by
  unfold Database.drainBarrierAllows
  cases database.managedExecutions.find? executionId with
  | none => simp
  | some member =>
    cases database.runControls.find? runId with
    | none => simp
    | some control => simp [and_assoc]

theorem Database.hasUnresolved_iff :
    database.hasUnresolvedControlBarrier runId = true ↔
      ∃ receipt, receipt ∈ database.unresolvedBarriers runId := by
  unfold Database.hasUnresolvedControlBarrier
  rw [Bool.not_eq_true', isEmpty_eq_false_iff]
  exact ⟨exists_mem_of_ne_nil _, fun ⟨_, member⟩ => ne_nil_of_mem member⟩

/-- The second tables permit no more than the first. -/
structure Database.Restrains (before after : Database) : Prop where
  members : ∀ executionId member, before.managedExecutions.find? executionId = some member →
    after.managedExecutions.find? executionId = some member
  controls : ∀ runId control, after.runControls.find? runId = some control →
    ∃ claimsUsed, before.runControls.find? runId = some { control with claimsUsed }
  barriers : ∀ runId receipt, receipt ∈ before.unresolvedBarriers runId →
    receipt ∈ after.unresolvedBarriers runId

namespace Database.Restrains

variable {middle : Database}

theorem refl (database : Database) : database.Restrains database :=
  ⟨fun _ _ found => found, fun _ control found => ⟨control.claimsUsed, found⟩,
    fun _ _ member => member⟩

theorem trans (first : before.Restrains middle) (second : middle.Restrains after) :
    before.Restrains after where
  members executionId member found :=
    second.members executionId member (first.members executionId member found)
  controls runId control found := by
    obtain ⟨between, stored⟩ := second.controls runId control found
    obtain ⟨claimsUsed, old⟩ := first.controls runId _ stored
    exact ⟨claimsUsed, old⟩
  barriers runId receipt member :=
    second.barriers runId receipt (first.barriers runId receipt member)

theorem of_same (same : before.SameRuns after) : before.Restrains after where
  members executionId member found := by
    rw [same.managedExecutions]
    exact found
  controls runId control found := by
    rw [same.runControls] at found
    exact ⟨control.claimsUsed, found⟩
  barriers runId receipt member := by
    rw [same.unresolvedBarriers]
    exact member

theorem charged (database : Database) (executionId : Identifier) :
    database.Restrains (database.charged executionId) := by
  rcases Database.charged_runs database executionId with
    ⟨-, same⟩ | ⟨member, control, -, stored, same⟩ <;> rw [same]
  · exact refl database
  · refine ⟨fun _ _ found => found, fun runId other found => ?_, fun _ _ member => member⟩
    have own : control.runId = member.runId := Table.key_of_find? stored
    have found : (database.runControls.put
        { control with claimsUsed := control.claimsUsed + 1 }).find? runId = some other := found
    rw [Table.find?_put] at found
    by_cases run : runId = control.runId
    · rw [if_pos run, Option.some.injEq] at found
      refine ⟨control.claimsUsed, ?_⟩
      rw [run, own, stored, ← found]
    · rw [if_neg run] at found
      exact ⟨other.claimsUsed, found⟩

theorem permits (restrains : before.Restrains after)
    {drains : Bool} (permits : after.Permits executionId now drains) :
    before.Permits executionId now drains := by
  intro member found
  obtain ⟨control, stored, unexpired, barrier, admitted⟩ :=
    permits member (restrains.members executionId member found)
  obtain ⟨claimsUsed, old⟩ := restrains.controls member.runId control stored
  refine ⟨_, old, unexpired, fun closed => ?_, admitted⟩
  obtain ⟨receipt, unresolved⟩ := Database.hasUnresolved_iff.mp closed
  obtain ⟨other, current, listed, controlled, own, generation, allowed, pausing, passes⟩ :=
    Database.drainBarrierAllows_iff.mp (barrier (Database.hasUnresolved_iff.mpr
      ⟨receipt, restrains.barriers member.runId receipt unresolved⟩))
  rw [restrains.members executionId member found, Option.some.injEq] at listed
  rw [stored, Option.some.injEq] at controlled
  subst listed controlled
  exact Database.drainBarrierAllows_iff.mpr ⟨member, _, found, old, own, generation, allowed,
    pausing, fun receipt kept => passes receipt (restrains.barriers member.runId receipt kept)⟩

end Database.Restrains

theorem Work.restrains (work : Work now before after) : before.Restrains after := by
  cases work with
  | @move executionId need _ allowed rewrites =>
    refine Database.Restrains.trans ?_ (.of_same rewrites.sameRuns)
    cases need with
    | claim => exact .charged before executionId
    | nothing | work | opening => exact .refl before
  | support supports => exact .of_same supports.runs

theorem Enrol.restrains (enrol : Enrol may now before after) : before.Restrains after := by
  cases enrol with
  | @register executionId runId generation fresh unregistered controlled =>
    refine ⟨fun name member found => ?_, fun _ control found => ⟨control.claimsUsed, found⟩,
      fun _ _ member => member⟩
    have different : name ≠ executionId := by
      rintro rfl
      cases unregistered.symm.trans found
    exact (Table.find?_put_other before.managedExecutions different).trans found
  | submit active rewrites => exact .of_same rewrites.sameRuns
  | refuse rewrites => exact .of_same rewrites.sameRuns
  | bind permitted _ _ lives runs => exact .of_same runs
  | attest fresh =>
    refine ⟨fun _ _ found => found, fun _ control found => ⟨control.claimsUsed, found⟩,
      fun runId other member => ?_⟩
    rw [Database.mem_unresolvedBarriers] at member ⊢
    exact ⟨before.pauseReceipts.mem_put_of_fresh fresh member.1, member.2⟩
  | support supports => exact .of_same supports.runs

/-! ### What a step adds to the logs -/

theorem EventType.need_cases (eventType : EventType) :
    eventType.need = .nothing ∨ eventType.need = .work ∨ eventType.need = .claim := by
  cases eventType <;> simp [EventType.need]

variable {eventType : EventType}

theorem EventType.need_claim : eventType.need = .claim ↔ eventType = .leased := by
  cases eventType <;> simp [EventType.need]

theorem EffectEventType.need_cases (eventType : EffectEventType) :
    eventType.need = .nothing ∨ eventType.need = .opening := by
  cases eventType <;> simp [EffectEventType.need]

/-- What a move adds to the two logs of its execution. -/
structure Ledger.Extends (now : Timestamp) (ledger : Ledger) (need : Need) (after : Ledger) :
    Prop where
  events : ∃ new, after.events = ledger.events ++ new ∧
    (∀ event ∈ new, event.createdAt = now ∧
      (event.eventType.need = .nothing ∨ event.eventType.need = need)) ∧
    leasesGranted new = if need = .claim then 1 else 0
  effectEvents : ∃ new, after.effectEvents = ledger.effectEvents ++ new ∧
    ∀ event ∈ new, event.createdAt = now ∧
      (event.eventType.need = .nothing ∨ event.eventType.need = need)

variable {fromState : Option ExecutionState} {data : List (String × Json)}

theorem leasesGranted_entry :
    leasesGranted [row.entry eventType fromState data] =
      if eventType.need = .claim then 1 else 0 := by
  rw [show [row.entry eventType fromState data] =
    [] ++ [row.entry eventType fromState data] from rfl, leasesGranted_concat]
  simp only [EventType.need_claim]
  exact Nat.zero_add _

variable {ledger : Ledger} {need : Need}

theorem Ledger.extends_enter {results : List ExecutionResult} (updated : row.updatedAt = now)
    (needs : eventType.need = need) :
    ledger.Extends now need (ledger.enter row (row.entry eventType fromState data) results) where
  events := by
    refine ⟨[row.entry eventType fromState data], rfl, fun event member => ?_, ?_⟩
    · rw [mem_singleton] at member
      rw [member]
      exact ⟨updated, Or.inr needs⟩
    · rw [leasesGranted_entry, needs]
  effectEvents := ⟨[], (append_nil ledger.effectEvents).symm, nofun⟩

variable {event : EffectEventRow}

variable {effect : EffectRow}

theorem Ledger.record_events : (ledger.record effect event).events = ledger.events := by
  unfold Ledger.record
  rfl

theorem Ledger.extends_record (updated : event.createdAt = now)
    (needs : event.eventType.need = need) :
    ledger.Extends now need (ledger.record effect event) where
  events := by
    refine ⟨[], record_events.trans (append_nil ledger.events).symm,
      fun _ absent => absurd absent not_mem_nil, ?_⟩
    have free : need ≠ .claim := by
      rw [← needs]
      rcases event.eventType.need_cases with same | same <;> rw [same] <;> decide
    rw [if_neg free]
    rfl
  effectEvents := by
    refine ⟨[event], rfl, fun other member => ?_⟩
    rw [mem_singleton] at member
    rw [member]
    exact ⟨updated, Or.inr needs⟩

theorem Ledger.Extends.comp {first second third : Ledger}
    (left : first.Extends now .nothing second) (right : second.Extends now .nothing third) :
    first.Extends now .nothing third := by
  obtain ⟨⟨new, events, told, leases⟩, effects, effectEvents, toldEffects⟩ := left
  obtain ⟨⟨more, events', told', leases'⟩, others, effectEvents', toldEffects'⟩ := right
  refine ⟨⟨new ++ more, ?_, ?_, ?_⟩, effects ++ others, ?_, ?_⟩
  · rw [events', events, append_assoc]
  · exact fun event member => (mem_append.mp member).elim (told event) (told' event)
  · unfold leasesGranted at leases leases' ⊢
    rw [countP_append, leases, leases']
    rfl
  · rw [effectEvents', effectEvents, append_assoc]
  · exact fun event member =>
      (mem_append.mp member).elim (toldEffects event) (toldEffects' event)

theorem Move.logs {after : Ledger} (move : Move now ledger need after) :
    ledger.Extends now need after := by
  cases move with
  | submit fresh command data => exact Ledger.extends_enter rfl rfl
  | transit stored transit alone needs data =>
    exact Ledger.extends_enter transit.succeeds.updatedAt needs
  | perform stored found perform needs data => exact Ledger.extends_record rfl needs
  | @resolve row after effect decision response recoveryId eventType results resolved stored
      pointed found uncertain recorded transit disposing data =>
    have free : eventType.need = .nothing := by
      revert disposing
      cases eventType <;> simp [EventType.disposes, EventType.need]
    subst recorded
    have recorded : ledger.Extends now .nothing (ledger.record
        (effect.resolved decision response recoveryId now)
        (effect.resolvedEvent decision response recoveryId now)) :=
      Ledger.extends_record rfl rfl
    exact recorded.comp (Ledger.extends_enter transit.succeeds.updatedAt free)

/-! ### The journal of an execution -/

/-- What is recorded of an execution stays, and its journal goes on where it ended. -/
structure Ledger.Continues (ledger after : Ledger) : Prop where
  events : ledger.events <+: after.events
  effectEvents : ledger.effectEvents <+: after.effectEvents
  row : ∀ row, ledger.row = some row → ∃ later, after.row = some later ∧
    later.command = row.command ∧ later.createdAt = row.createdAt
  effects : ∀ effectId effect, ledger.effects effectId = some effect →
    ∃ later, after.effects effectId = some later ∧ later.name = effect.name ∧
      later.request = effect.request

namespace Ledger.Continues

theorem refl (ledger : Ledger) : ledger.Continues ledger :=
  ⟨prefix_rfl, prefix_rfl, fun row stored => ⟨row, stored, rfl, rfl⟩,
    fun _ effect found => ⟨effect, found, rfl, rfl⟩⟩

theorem trans {first second third : Ledger} (left : first.Continues second)
    (right : second.Continues third) : first.Continues third := by
  refine ⟨left.events.trans right.events, left.effectEvents.trans right.effectEvents, ?_, ?_⟩
  · intro row stored
    obtain ⟨next, reached, command, created⟩ := left.row row stored
    obtain ⟨later, found, commands, createds⟩ := right.row next reached
    exact ⟨later, found, commands.trans command, createds.trans created⟩
  · intro effectId effect found
    obtain ⟨next, reached, name, request⟩ := left.effects effectId effect found
    obtain ⟨later, there, names, requests⟩ := right.effects effectId next reached
    exact ⟨later, there, names.trans name, requests.trans request⟩

theorem enter {after : ExecutionRow} {event : EventDraft} {results : List ExecutionResult}
    (same : ∀ row, ledger.row = some row → after.command = row.command ∧
      after.createdAt = row.createdAt) : ledger.Continues (ledger.enter after event results) :=
  ⟨prefix_append _ _, prefix_rfl, fun row stored => ⟨after, rfl, same row stored⟩,
    fun _ effect found => ⟨effect, found, rfl, rfl⟩⟩

theorem record (same : ∀ stored, ledger.effects effect.effectId = some stored →
      effect.name = stored.name ∧ effect.request = stored.request) :
    ledger.Continues (ledger.record effect event) := by
  refine ⟨prefix_rfl, prefix_append _ _, fun row stored => ⟨row, stored, rfl, rfl⟩, ?_⟩
  intro effectId stored found
  by_cases own : effectId = effect.effectId
  · subst own
    exact ⟨effect, Function.update_self _ _ _, same stored found⟩
  · exact ⟨stored, (Function.update_of_ne own _ _).trans found, rfl, rfl⟩

theorem move {after : Ledger} (move : Move now ledger need after) : ledger.Continues after := by
  cases move with
  | submit fresh => exact enter fun row stored => by cases fresh.symm.trans stored
  | transit found transit =>
    refine enter fun row stored => ?_
    cases found.symm.trans stored
    exact ⟨transit.succeeds.command, transit.succeeds.createdAt⟩
  | perform stored found perform =>
    refine record fun effect known => ?_
    cases perform with
    | prepare _ _ fresh => cases fresh.symm.trans known
    | _ =>
      cases (found _ rfl).symm.trans known
      exact ⟨rfl, rfl⟩
  | resolve found _ known _ recorded transit =>
    subst recorded
    refine trans (record fun effect stored => ?_) (enter fun row stored => ?_)
    · cases known.symm.trans stored
      exact ⟨rfl, rfl⟩
    · cases found.symm.trans stored
      exact ⟨transit.succeeds.command, transit.succeeds.createdAt⟩

end Ledger.Continues

/-- Entries follow one another in time, and none lies ahead. -/
def InOrder (time : Timestamp) (times : List Timestamp) : Prop :=
  times.Pairwise (· ≤ ·) ∧ ∀ earlier ∈ times, earlier ≤ time

theorem InOrder.extend {times new : List Timestamp} (ordered : InOrder now times)
    (told : ∀ moment ∈ new, moment = now) : InOrder now (times ++ new) := by
  refine ⟨pairwise_append.mpr ⟨ordered.1, ?_, fun earlier member moment here => ?_⟩, ?_⟩
  · exact pairwise_of_forall_mem_list fun first here second there =>
      (told first here).le.trans (told second there).ge
  · exact (ordered.2 earlier member).trans (told moment here).ge
  · exact forall_mem_append.mpr ⟨ordered.2, fun moment here => (told moment here).le⟩

def Ledger.Chronological (time : Timestamp) (ledger : Ledger) : Prop :=
  InOrder time (ledger.events.map (·.createdAt)) ∧
    InOrder time (ledger.effectEvents.map (·.createdAt))

theorem Ledger.Chronological.move {after : Ledger} (chronological : ledger.Chronological now)
    (move : Move now ledger need after) : after.Chronological now := by
  obtain ⟨⟨new, events, told, -⟩, added, effectEvents, toldEffects⟩ := move.logs
  rw [Ledger.Chronological, events, effectEvents, map_append, map_append]
  exact ⟨chronological.1.extend (forall_mem_map.mpr fun event member => (told event member).1),
    chronological.2.extend (forall_mem_map.mpr fun event member => (toldEffects event member).1)⟩

theorem chronological_kept : Kept fun time _ ledger => ledger.Chronological time where
  later chronological later :=
    ⟨⟨chronological.1.1, fun earlier member => (chronological.1.2 earlier member).trans later⟩,
      chronological.2.1, fun earlier member => (chronological.2.2 earlier member).trans later⟩
  submitted now command data := by
    have empty : Ledger.blank.Chronological now := by
      simp [Ledger.Chronological, InOrder, Ledger.blank]
    exact empty.move (.submit rfl command data)
  moved _ chronological move _ := chronological.move move

/-- In every run the journal of an execution only goes on, in the order of time; the execution
keeps its command, and an effect its name and its request. -/
theorem journals_continue {state last : KernelState} (reachable : kernel.Reachable state)
    (run : kernel.Run state last) (executionId : Identifier) :
    (state.database.ledger executionId).Continues (last.database.ledger executionId) ∧
    ∀ row, last.database.executions.find? executionId = some row →
      (last.database.ledger executionId).Chronological last.watermark :=
  ⟨chronological_kept.respects Ledger.Continues .refl .trans (fun _ move => .move move) reachable
    run executionId, fun _ stored => chronological_kept.holds (reachable.run run) stored⟩

/-- The example prepares and claims an effect after its first three events. -/
theorem journals_sample :
    let earlier := (KernelState.initial sampleName).after (samplePerforming.take 3)
    (earlier.database.ledger sampleName).Continues
      ((earlier.after (samplePerforming.drop 3)).database.ledger sampleName) ∧
    earlier.database.events.length = 3 :=
  ⟨(journals_continue (reachable_after _ _) (run_after _ _) sampleName).1, by decide +kernel⟩

theorem Database.writeAll_logs {writes : List Write}
    (concern : ∀ entry ∈ writes, entry.executionId = executionId) (database : Database)
    (ledger : Ledger) :
    ∃ new newEffects, (database.writeAll writes).events = database.events ++ new ∧
      (∀ event ∈ new, event.executionId = executionId) ∧
      (database.writeAll writes).effectEvents = database.effectEvents ++ newEffects ∧
      (∀ event ∈ newEffects, event.executionId = executionId) ∧
      (ledger.writeAll writes).events = ledger.events ++ new.map (·.toEventDraft) ∧
      (ledger.writeAll writes).effectEvents = ledger.effectEvents ++ newEffects := by
  induction writes generalizing database ledger with
  | nil => exact ⟨[], [], by simp⟩
  | cons first rest hypothesis =>
    obtain ⟨new, newEffects, events, owned, effectEvents, ownedEffects, entered,
      enteredEffects⟩ :=
      hypothesis (fun entry member => concern entry (mem_cons_of_mem first member))
        (database.write first) (ledger.write first)
    have own := concern first mem_cons_self
    rw [writeAll_cons, Ledger.writeAll_cons, events, effectEvents, entered, enteredEffects]
    cases first with
    | execution | effect | outbox =>
      exact ⟨new, newEffects, rfl, owned, rfl, ownedEffects, rfl, rfl⟩
    | event draft =>
      refine ⟨⟨draft, database.eventSequence + 1⟩ :: new, newEffects, ?_,
        forall_mem_cons.mpr ⟨own, owned⟩, rfl, ownedEffects, ?_, rfl⟩
      · simp [Database.write]
      · simp [Ledger.write]
    | effectEvent row =>
      refine ⟨new, row :: newEffects, rfl, owned, ?_,
        forall_mem_cons.mpr ⟨own, ownedEffects⟩, rfl, ?_⟩
      · simp [Database.write]
      · simp [Ledger.write]

/-- What a move of one execution adds to the logs of the store. -/
structure Database.Extends (now : Timestamp) (executionId : Identifier) (before : Database)
    (need : Need) (after : Database) : Prop where
  events : ∃ new, after.events = before.events ++ new ∧
    (∀ event ∈ new, event.executionId = executionId ∧ event.createdAt = now ∧
      (event.eventType.need = .nothing ∨ event.eventType.need = need)) ∧
    leasesGranted (new.map (·.toEventDraft)) = if need = .claim then 1 else 0
  effectEvents : ∃ new, after.effectEvents = before.effectEvents ++ new ∧
    ∀ event ∈ new, event.executionId = executionId ∧ event.createdAt = now ∧
      (event.eventType.need = .nothing ∨ event.eventType.need = need)

theorem Database.Rewrites.logs {next : Database} {relation : Ledger → Ledger → Prop}
    (rewrites : database.Rewrites executionId relation next)
    (extend : ∀ ledger after, relation ledger after → ledger.Extends now need after) :
    database.Extends now executionId need next := by
  obtain ⟨writes, -, concern, rfl, related⟩ := rewrites
  obtain ⟨new, newEffects, events, owned, effectEvents, ownedEffects, entered⟩ :=
    database.writeAll_logs concern (database.ledger executionId)
  obtain ⟨left, right⟩ := entered
  obtain ⟨⟨drafts, drafted, told, leases⟩, others, other, toldEffects⟩ := extend _ _ related
  have same : new.map (·.toEventDraft) = drafts := append_cancel_left (left.symm.trans drafted)
  have equal : newEffects = others := append_cancel_left (right.symm.trans other)
  subst same equal
  exact ⟨⟨new, events, fun event member =>
      ⟨owned event member, told event.toEventDraft (mem_map_of_mem member)⟩, leases⟩,
    newEffects, effectEvents, fun event member =>
      ⟨ownedEffects event member, toldEffects event member⟩⟩

/-! ### News -/

/-- What one set of tables has more than another that it was made from, as far as it needs
permission. -/
structure Database.News (now : Timestamp) (before after : Database) : Prop where
  events : ∃ new, after.events = before.events ++ new ∧ ∀ event ∈ new, event.createdAt = now ∧
    (event.eventType.need ≠ .nothing → before.Permits event.executionId now true)
  effectEvents : ∃ new, after.effectEvents = before.effectEvents ++ new ∧ ∀ event ∈ new,
    event.createdAt = now ∧
    (event.eventType.need ≠ .nothing → before.Permits event.executionId now false)
  parents : ∀ executionId binding, after.parentOf executionId = some binding →
    before.parentOf executionId = some binding ∨ before.Permits binding.executionId now false

namespace Database.News

variable {middle : Database}

theorem of_same (lives : before.SameLives after) (parents : before.SameParents after) :
    before.News now after where
  events := ⟨[], by rw [lives.events, append_nil],
    fun _ absent => absurd absent not_mem_nil⟩
  effectEvents := ⟨[], by rw [lives.effectEvents, append_nil],
    fun _ absent => absurd absent not_mem_nil⟩
  parents executionId binding bound := Or.inl ((parents executionId).symm.trans bound)

theorem refl (database : Database) : database.News now database :=
  of_same (.refl database) fun _ => rfl

theorem trans (restrains : before.Restrains middle) (first : before.News now middle)
    (second : middle.News now after) : before.News now after where
  events := by
    obtain ⟨new, events, told⟩ := first.events
    obtain ⟨more, events', told'⟩ := second.events
    refine ⟨new ++ more, by rw [events', events, append_assoc], fun event member => ?_⟩
    rcases mem_append.mp member with here | there
    · exact told event here
    · obtain ⟨created, permits⟩ := told' event there
      exact ⟨created, fun needs => restrains.permits (permits needs)⟩
  effectEvents := by
    obtain ⟨new, events, told⟩ := first.effectEvents
    obtain ⟨more, events', told'⟩ := second.effectEvents
    refine ⟨new ++ more, by rw [events', events, append_assoc], fun event member => ?_⟩
    rcases mem_append.mp member with here | there
    · exact told event here
    · obtain ⟨created, permits⟩ := told' event there
      exact ⟨created, fun needs => restrains.permits (permits needs)⟩
  parents executionId binding bound := by
    rcases second.parents executionId binding bound with old | permits
    · exact first.parents executionId binding old
    · exact .inr (restrains.permits permits)

theorem of_extends (need : Need)
    (allowed : before.Allows executionId now need) (lives : middle.events = before.events ∧
      middle.effectEvents = before.effectEvents)
    (extends_ : middle.Extends now executionId need after)
    (parents : before.SameParents after) : before.News now after where
  events := by
    obtain ⟨new, events, told, -⟩ := extends_.events
    refine ⟨new, by rw [events, lives.1], fun event member => ?_⟩
    obtain ⟨own, created, nothing | same⟩ := told event member
    · exact ⟨created, fun needs => absurd nothing needs⟩
    · refine ⟨created, fun needs => ?_⟩
      rw [own]
      rcases event.eventType.need_cases with free | work | claim
      · exact absurd free needs
      · rw [← same, work] at allowed
        exact allowed
      · rw [← same, claim] at allowed
        exact allowed.1
  effectEvents := by
    obtain ⟨new, events, told⟩ := extends_.effectEvents
    refine ⟨new, by rw [events, lives.2], fun event member => ?_⟩
    obtain ⟨own, created, nothing | same⟩ := told event member
    · exact ⟨created, fun needs => absurd nothing needs⟩
    · refine ⟨created, fun needs => ?_⟩
      rw [own]
      rcases event.eventType.need_cases with free | opening
      · exact absurd free needs
      · rw [← same, opening] at allowed
        exact allowed
  parents name binding bound := Or.inl ((parents name).symm.trans bound)

end Database.News

theorem Database.charged_same (database : Database) (executionId : Identifier) :
    ((database.charged executionId).events = database.events ∧
      (database.charged executionId).effectEvents = database.effectEvents) ∧
    database.SameParents (database.charged executionId) := by
  rcases Database.charged_runs database executionId with
    ⟨-, same⟩ | ⟨member, control, -, -, same⟩ <;> rw [same]
  · exact ⟨⟨rfl, rfl⟩, fun _ => rfl⟩
  · exact ⟨⟨rfl, rfl⟩, fun _ => rfl⟩

theorem Database.spend_same (database : Database) (executionId : Identifier) (need : Need) :
    ((database.spend executionId need).events = database.events ∧
      (database.spend executionId need).effectEvents = database.effectEvents) ∧
    database.SameParents (database.spend executionId need) := by
  cases need with
  | claim => exact database.charged_same executionId
  | nothing | work | opening => exact ⟨⟨rfl, rfl⟩, fun _ => rfl⟩

theorem Work.news (work : Work now before after) : before.News now after := by
  cases work with
  | @move executionId need _ allowed rewrites =>
    obtain ⟨lives, parents⟩ := before.spend_same executionId need
    refine .of_extends need allowed lives (rewrites.logs fun _ _ moved => moved.2.logs) fun name => ?_
    exact (rewrites.sameParents name).trans (parents name)
  | support supports => exact .of_same supports.lives supports.parents

theorem Enrol.news (enrol : Enrol may now before after) : before.News now after := by
  cases enrol with
  | register | attest =>
    exact .of_same ⟨rfl, rfl, rfl, rfl, rfl, fun _ => rfl⟩ fun _ => rfl
  | submit active rewrites =>
    exact .of_extends .nothing trivial ⟨rfl, rfl⟩ (rewrites.logs fun _ _ moved => moved.logs)
      rewrites.sameParents
  | refuse rewrites =>
    refine .of_extends .nothing trivial ⟨rfl, rfl⟩ (rewrites.logs fun _ _ moved => ?_)
      rewrites.sameParents
    obtain ⟨⟨middle, first, second⟩, -⟩ := moved
    exact first.logs.comp second.logs
  | @bind executionId binding _ permitted _ _ lives runs bound others =>
    refine ⟨⟨[], by rw [lives.events, append_nil],
        fun _ absent => absurd absent not_mem_nil⟩,
      ⟨[], by rw [lives.effectEvents, append_nil],
        fun _ absent => absurd absent not_mem_nil⟩, fun name other found => ?_⟩
    by_cases same : name = executionId
    · rw [same, bound, Option.some.injEq] at found
      rw [← found]
      exact .inr permitted
    · exact .inl ((others name same).symm.trans found)
  | support supports => exact .of_same supports.lives supports.parents

theorem Step.news (step : Step now before after) : before.News now after := by
  cases step with
  | work works =>
    have both : before.Restrains after ∧ before.News now after := by
      refine keeps_of_links (fun database =>
        before.Restrains database ∧ before.News now database) (fun holds link => ?_)
        ⟨.refl before, .refl before⟩ works
      exact ⟨holds.1.trans link.restrains, .trans holds.1 holds.2 link.news⟩
    exact both.2
  | enrol enrols =>
    have both : before.Restrains after ∧ before.News now after := by
      refine keeps_of_links (fun database =>
        before.Restrains database ∧ before.News now database) (fun holds link => ?_)
        ⟨.refl before, .refl before⟩ enrols
      exact ⟨holds.1.trans link.restrains, .trans holds.1 holds.2 link.news⟩
    exact both.2
  | govern governs =>
    cases governs with
    | rule lives parents => exact .of_same lives parents
    | support supports => exact .of_same supports.lives supports.parents

end DispatcherSdk.ExecutionKernel
