/-
This file proves that everything that ends an execution, or ends one of its attempts, is
work: results, retries, dead letters, cancellations, and decisions about uncertain
effects.

The terminal step writes a row, its event and its result. Which guard it is made under
differs between its callers; what it writes is stated once.
-/

import DispatcherSdk.ExecutionKernel.Steps

namespace DispatcherSdk.ExecutionKernel

open Library Library.Attempt

variable {environment : Environment} {frame : Frame}

/-! ### Permission of an operation -/

variable {executionId : Identifier}

variable {now : Timestamp} {operation : ManagedOperation}

theorem authorizeManagedOperation_permits {surroundings : Environment × Database}
    {session : Session} :
    Ensures (authorizeManagedOperation executionId now operation) surroundings session
      fun _ _ => surroundings.2.Permits executionId now (!operation.opensNewWork) := by
  unfold authorizeManagedOperation
  refine ensures_bind (ensures_probe_database ?_)
  cases registered : surroundings.2.managedExecutions.find? executionId with
  | none =>
    refine ensures_require fun _ member found => ?_
    cases registered.symm.trans found
  | some member =>
    refine then_expect fun control stored => ?_
    refine ensures_ite (fun settled => absurd settled Bool.false_ne_true) fun _ => ?_
    refine then_require fun draining => ?_
    refine ensures_bind ((ensures_trivial _).mono fun _ _ _ => ?_)
    refine then_require fun barrier => ?_
    refine then_require fun unexpired => ?_
    refine ensures_require fun admitted other found => ?_
    cases registered.symm.trans found
    refine ⟨control, stored, unexpired, barrier, ?_⟩
    rcases admitted with active | ⟨pausing, allowed, -, -⟩
    · exact .inl active
    · refine Or.inr ⟨?_, pausing, allowed⟩
      have ordinary : operation.opensNewWork ≠ true := fun opens => draining ⟨pausing, opens⟩
      simpa using ordinary

variable {condition : Unit → Frame → Prop}

theorem authorized (holds : frame.database.Permits executionId now (!operation.opensNewWork) →
      ∀ session, condition () { frame with session }) :
    Ensures (KernelM.probe (authorizeManagedOperation executionId now operation)) environment
      frame condition :=
  ensures_probe (authorizeManagedOperation_permits.mono fun _ session permits =>
    holds permits session)

theorem checked {Answer : Type} {program : Probe Answer} {condition : Answer → Frame → Prop}
    (holds : ∀ value session, condition value { frame with session }) :
    Ensures (KernelM.probe program) environment frame condition :=
  ensures_probe fun value session _ => holds value session

theorem then_check {Value Answer : Type} {program : Probe Value} {rest : Value → KernelM Answer}
    {condition : Answer → Frame → Prop}
    (holds : ∀ value session, Ensures (rest value) environment { frame with session } condition) :
    Ensures (KernelM.probe program >>= rest) environment frame condition :=
  ensures_bind (checked holds)

/-! ### The charge of a claim -/

theorem chargeManagedClaim_charges (holds : frame.database.Allows executionId now .claim →
      ∀ session, condition () ⟨frame.database.charged executionId, session⟩) :
    Ensures (chargeManagedClaim executionId now) environment frame condition := by
  unfold chargeManagedClaim
  refine then_read ?_
  cases registered : frame.database.managedExecutions.find? executionId with
  | none =>
    refine ensures_require fun _ => ?_
    have uncontrolled : frame.database.controlOf executionId = none := by
      simp [Database.controlOf, registered]
    have uncharged : frame.database.charged executionId = frame.database := by
      simp [Database.charged, uncontrolled]
    rw [uncharged] at holds
    refine holds ⟨?_, ?_⟩ frame.session
    · intro member found
      cases registered.symm.trans found
    · intro control found
      cases uncontrolled.symm.trans found
  | some member =>
    refine then_check fun _ session => ?_
    refine then_require fun barrier => ?_
    refine then_expect fun control stored => ?_
    refine then_require fun admitted => ?_
    have controlled : frame.database.controlOf executionId = some control := by
      simp [Database.controlOf, registered, stored]
    have charged : frame.database.charged executionId =
        { frame.database with
          runControls := frame.database.runControls.put
            { control with claimsUsed := control.claimsUsed + 1 } } := by
      simp [Database.charged, controlled]
    rw [charged] at holds
    refine ensures_modify (holds ⟨?_, ?_⟩ session)
    · intro other found
      cases registered.symm.trans found
      refine ⟨control, stored, admitted.2.1, barrier, ?_⟩
      rcases admitted.2.2 with active | draining
      · exact .inl active
      · exact .inr ⟨rfl, draining⟩
    · intro other found
      cases controlled.symm.trans found
      exact admitted.1

open Relation List

/-! ### Runs of work -/

variable {start before : Database} {row after : EffectRow} {effects rest : List EffectRow}
  {cancelReason : Option Identifier}

theorem works_then {Answer : Type} {program : KernelM Answer}
    (reached : Works now start frame.database)
    (later : Relates (Works now) program environment frame) :
    Ensures program environment frame fun _ next => Works now start next.database :=
  later.mono fun _ _ worked => reached.trans worked

theorem Works.move {after : Database} {need : Need} (allowed : before.Allows executionId now need)
    (rewrites : (before.spend executionId need).Rewrites executionId
      (fun ledger next => (∃ row, ledger.row = some row) ∧ Move now ledger need next) after) :
    Works now before after :=
  ReflTransGen.single (.move allowed rewrites)

/-- Work on one execution, which leaves the ledgers of all others alone. -/
def WorksOn (now : Timestamp) (executionId : Identifier) : Database → Database → Prop :=
  ReflTransGen fun before after => Work now before after ∧
    ∀ other, other ≠ executionId → after.ledger other = before.ledger other

namespace WorksOn

variable {before after : Database} {executionId : Identifier}

theorem works (worked : WorksOn now executionId before after) : Works now before after :=
  ReflTransGen.mono (fun _ _ step => step.1) _ _ worked

theorem foreign (worked : WorksOn now executionId before after) {other : Identifier}
    (different : other ≠ executionId) :
    after.executions.find? other = before.executions.find? other := by
  induction worked with
  | refl => rfl
  | tail _ step hypothesis =>
    have same := congrArg Ledger.row (step.2 other different)
    exact Eq.trans same hypothesis

theorem move (rewrites : before.Rewrites executionId
    (fun ledger next => (∃ row, ledger.row = some row) ∧ Move now ledger .nothing next) after) :
    WorksOn now executionId before after :=
  ReflTransGen.single ⟨@Work.move _ _ _ .nothing _ trivial rewrites,
    fun _ different => rewrites.foreign different⟩

end WorksOn

variable {data : List (String × Json)}

theorem works_transit {row after : ExecutionRow} {eventType : EventType}
    (found : before.executions.find? row.executionId = some row)
    (transit : Transit now (before.ledger row.executionId) row eventType after
      (before.ledger row.executionId).results)
    (alone : eventType.disposes = false) (needless : eventType.need = .nothing) :
    WorksOn now row.executionId before
      ((before.write (.execution after)).write
        (.event (after.entry eventType (some row.state) data))) := by
  have same := transit.succeeds.executionId
  refine WorksOn.move ?_
  rw [← same]
  refine rewrites_enter rfl ⟨⟨row, ?_⟩, ?_⟩
  · rw [same]
    exact found
  · rw [same]
    exact Move.transit found transit alone needless data

/-! ### One effect -/

theorem effectRecord_ensures {condition : EffectRecord → Frame → Prop}
    (holds : ∀ record, record.toEffectFields = row.fields → condition record frame) :
    Ensures (effectRecord row) environment frame condition :=
  ensures_lift fun record decoded => holds record (EffectRow.record_fields decoded)

theorem casEffect_ensures {before : EffectRow} {operation : String}
    (holds : condition () { frame with database := frame.database.write (.effect after) }) :
    Ensures (casEffect before after operation) environment frame condition :=
  then_read (then_require fun _ => ensures_write holds)

variable {effectId : Identifier}

theorem getEffectRow_ensures {condition : EffectRow → Frame → Prop}
    (holds : ∀ row, frame.database.effects.find? effectId = some row → condition row frame) :
    Ensures (getEffectRow effectId) environment frame condition :=
  then_read (ensures_expect holds)

variable {execution : ExecutionRow}

theorem works_perform {effect : EffectRow} {eventType : EffectEventType}
    (executed : before.executions.find? effect.executionId = some execution)
    (found : before.effects.find? effect.effectId = some effect)
    (named : after.effectId = effect.effectId) (owned : after.executionId = effect.executionId)
    (perform : Perform now (before.ledger effect.executionId) execution eventType (some effect) after)
    (needless : eventType.need = .nothing) :
    WorksOn now effect.executionId before
      ((before.write (.effect after)).write
        (.effectEvent (effectEvent after eventType (some effect.state) data now))) := by
  refine WorksOn.move ?_
  rw [← owned]
  refine rewrites_record rfl ?_ ⟨⟨execution, ?_⟩, ?_⟩
  · intro stored present
    have same : before.effects.find? effect.effectId = some stored := named ▸ present
    rw [found, Option.some.injEq] at same
    rw [← same, owned]
  · rw [owned]
    exact executed
  · rw [owned]
    refine Move.perform executed ?_ perform needless data
    intro stored member
    cases member
    exact Database.ledger_effects.mpr ⟨found, rfl⟩

/-- An effect whose authority ended is left uncertain, and no other effect is touched. -/
structure ParkedEffect (before : Database) (row : EffectRow) (after : Database) : Prop where
  executions : after.executions = before.executions
  stored : ∃ parked, after.effects.find? row.effectId = some parked ∧
    parked.executionId = row.executionId ∧ parked.state = .indeterminate
  others : ∀ name, name ≠ row.effectId → after.effects.find? name = before.effects.find? name

variable {trigger : ParkTrigger}

theorem parkEffect_works
    (executed : frame.database.executions.find? row.executionId = some execution)
    (found : frame.database.effects.find? row.effectId = some row)
    (unfinished : row.state.unfinished = true) :
    Ensures (parkEffect trigger now row) environment frame fun _ next =>
      WorksOn now row.executionId frame.database next.database ∧
        ParkedEffect frame.database row next.database := by
  unfold parkEffect
  refine ensures_bind (effectRecord_ensures fun record same => ?_)
  have state : record.state = row.state := congrArg EffectFields.state same
  refine ensures_ite (fun opened => ?_) (fun closed => ?_)
  · rw [state] at opened
    refine ensures_bind (casEffect_ensures ?_)
    refine ensures_bind (effectRecord_ensures fun _ _ => ensures_write ⟨?_, rfl, ?_, ?_⟩)
    · refine works_perform executed found rfl rfl (.park ?_ opened trigger) ?_
      · split <;> rfl
      · split <;> rfl
    · exact ⟨row.parked trigger now, Table.find?_put_same _ (row.parked trigger now), rfl, rfl⟩
    · intro name different
      exact Table.find?_put_other _ different
  · rw [state] at closed
    refine ensures_pure ⟨.refl, rfl, ⟨row, found, rfl, ?_⟩, fun _ _ => rfl⟩
    cases current : row.state <;> simp_all [EffectState.open_, EffectState.unfinished]

/-! ### All unfinished effects -/

/-- The effects that parking has read: those still to come are stored as they were read, and the
others are uncertain. -/
structure ParkingEffects (start : Database) (effects remaining : List EffectRow)
    (current : Database) : Prop where
  executions : current.executions = start.executions
  unread : ∀ row ∈ remaining, current.effects.find? row.effectId = some row
  distinct : (remaining.map (·.effectId)).Nodup
  known : ∀ row ∈ remaining, row ∈ effects
  parked : ∀ row ∈ effects, row ∈ remaining ∨
    ∃ stored, current.effects.find? row.effectId = some stored ∧
      stored.executionId = row.executionId ∧ stored.state = .indeterminate
  others : ∀ name, (∀ row ∈ effects, row.effectId ≠ name) →
    current.effects.find? name = start.effects.find? name

theorem ParkingEffects.step {current next : Database}
    (parking : ParkingEffects start effects (row :: rest) current)
    (one : ParkedEffect current row next) : ParkingEffects start effects rest next where
  executions := one.executions.trans parking.executions
  unread other member := by
    have different : other.effectId ≠ row.effectId := by
      intro same
      have distinct := parking.distinct
      rw [map_cons, nodup_cons] at distinct
      exact distinct.1 (mem_map.mpr ⟨other, member, same⟩)
    rw [one.others _ different]
    exact parking.unread other (mem_cons_of_mem row member)
  distinct := by
    have distinct := parking.distinct
    rw [map_cons, nodup_cons] at distinct
    exact distinct.2
  known other member := parking.known other (mem_cons_of_mem row member)
  parked other member := by
    by_cases same : other.effectId = row.effectId
    · obtain ⟨stored, found, owner, uncertain⟩ := one.stored
      rcases parking.parked other member with pending | ⟨earlier, read, owned, _⟩
      · rcases mem_cons.mp pending with rfl | later
        · exact .inr ⟨stored, found, owner, uncertain⟩
        · exact .inl later
      · have unread := parking.unread row mem_cons_self
        rw [← same, read, Option.some.injEq] at unread
        rw [same]
        exact .inr ⟨stored, found, owner.trans (by rw [← unread, owned]), uncertain⟩
    · rw [one.others _ same]
      rcases parking.parked other member with pending | earlier
      · rcases mem_cons.mp pending with rfl | later
        · exact absurd rfl same
        · exact .inl later
      · exact .inr earlier
  others name foreign := by
    have different : name ≠ row.effectId := fun same =>
      foreign row (parking.known row mem_cons_self) same.symm
    rw [one.others name different]
    exact parking.others name foreign

theorem forEach_parkEffect_works
    (executed : frame.database.executions.find? execution.executionId = some execution)
    (owned : ∀ row ∈ effects, row.executionId = execution.executionId ∧
      row.state.unfinished = true)
    (stored : ∀ row ∈ effects, frame.database.effects.find? row.effectId = some row)
    (distinct : (effects.map (·.effectId)).Nodup) :
    Ensures (forEach effects (parkEffect trigger now)) environment frame fun _ next =>
      WorksOn now execution.executionId frame.database next.database ∧
        ParkingEffects frame.database effects [] next.database := by
  refine ensures_forEach (fun remaining (next : Frame) =>
    WorksOn now execution.executionId frame.database next.database ∧
      ParkingEffects frame.database effects remaining next.database) ?_ ?_
  · exact ⟨.refl, rfl, stored, distinct, fun _ member => member, fun _ member => Or.inl member,
      fun _ _ => rfl⟩
  · rintro row rest current ⟨worked, parking⟩
    obtain ⟨owner, unfinished⟩ := owned row (parking.known row mem_cons_self)
    have present : current.database.executions.find? row.executionId = some execution := by
      rw [parking.executions, owner]
      exact executed
    refine (parkEffect_works present (parking.unread row mem_cons_self) unfinished).mono ?_
    rintro _ next ⟨more, one⟩
    rw [owner] at more
    exact ⟨worked.trans more, parking.step one⟩

/-! ### The execution -/

theorem snapshot_ensures {row : ExecutionRow} {condition : ExecutionSnapshot → Frame → Prop}
    (holds : ∀ taken : ExecutionSnapshot, taken.state = row.state → condition taken frame) :
    Ensures (snapshot row) environment frame condition := by
  refine ensures_lift fun taken decoded => holds taken ?_
  unfold ExecutionRow.snapshot at decoded
  cases record : row.leaseRecord with
  | error failure =>
    rw [record] at decoded
    cases decoded
  | ok lease =>
    rw [record] at decoded
    exact congrArg SnapshotFields.state (ExecutionSnapshot.make_fields decoded)

theorem recoveryPointer_mem (execution : ExecutionRow) (first : EffectRow) (rest : List EffectRow) :
    recoveryPointer execution first rest ∈ (first :: rest).map (·.effectId) := by
  unfold recoveryPointer
  split
  · split
    · assumption
    · exact mem_cons_self
  · exact mem_cons_self

theorem parkExecution_works {first : EffectRow}
    (found : frame.database.executions.find? execution.executionId = some execution)
    (uncertain : (frame.database.ledger execution.executionId).Uncertain
      (recoveryPointer execution first rest))
    (closed : ¬ (frame.database.ledger execution.executionId).OwnsOpen)
    (reasoned : trigger = .cancel → cancelReason.isSome) :
    Ensures (parkExecution execution first rest trigger cancelReason now) environment frame
      fun answer next => answer.state = .recoveryRequired ∧
        WorksOn now execution.executionId frame.database next.database := by
  have durable : trigger.requestedTarget = .cancelled → cancelReason.isSome := by
    intro requested
    apply reasoned
    cases trigger <;> first | rfl | cases requested
  have written : ∀ (database : Database) {after stored : ExecutionRow},
      (database.executions.put after).find? after.executionId = some stored → stored = after := by
    intro database after stored present
    rw [Table.find?_put_same, Option.some.injEq] at present
    exact present.symm
  unfold parkExecution
  refine ensures_bind (getEffectRow_ensures fun pointerRow _ => ?_)
  refine ensures_ite (fun parked => ?_) (fun ordinary => ?_)
  · refine ensures_ite (fun _ => snapshot_ensures fun taken same => ⟨same.trans parked, .refl⟩)
      (fun _ => ?_)
    refine ensures_bind (casExecution_ensures ?_)
    refine ensures_bind (appendEvent_ensures ?_)
    refine ensures_bind (getRow_ensures fun stored present => snapshot_ensures fun taken same => ?_)
    rw [same, written frame.database present]
    refine ⟨parked, ?_⟩
    rw [← parked]
    refine works_transit found (.repark ?_ parked uncertain durable) ?_ ?_
    all_goals split <;> rfl
  · refine then_lift fun _ reduced => ?_
    refine ensures_bind (casExecution_ensures ?_)
    refine ensures_bind (appendEvent_ensures ?_)
    refine ensures_bind (getRow_ensures fun stored present => snapshot_ensures fun taken same => ?_)
    rw [same, written frame.database present]
    have allowed := (reduceState_ok reduced).2
    refine ⟨rfl, works_transit found (.park ?_ ordinary allowed closed uncertain durable) ?_ ?_⟩
    all_goals split <;> rfl

/-! ### Parking -/

/-- What parking leaves behind: nothing is unfinished and nothing has changed, or the execution
waits for recovery. -/
def Parks (now : Timestamp) (executionId : Identifier) (frame : Frame)
    (answer : Option ExecutionSnapshot) (next : Frame) : Prop :=
  match answer with
  | none => next = frame ∧ (frame.database.ledger executionId).Settled
  | some waiting => ¬ (frame.database.ledger executionId).Settled ∧
      waiting.state = .recoveryRequired ∧
      WorksOn now executionId frame.database next.database

theorem Parks.works {answer : Option ExecutionSnapshot} {next : Frame}
    (parks : Parks now executionId frame answer next) :
    WorksOn now executionId frame.database next.database := by
  cases answer with
  | none =>
    rw [parks.1]
    exact .refl
  | some _ => exact parks.2.2

theorem settled_of_unfinishedEffectRows {database : Database}
    (none : database.unfinishedEffectRows executionId = []) :
    (database.ledger executionId).Settled := by
  intro effectId effect owned
  obtain ⟨found, owner⟩ := Database.ledger_effects.mp owned
  by_contra unfinished
  have member : effect ∈ database.unfinishedEffectRows executionId :=
    Database.mem_unfinishedEffectRows.mpr
      ⟨Table.mem_of_find? found, owner, by simpa using unfinished⟩
  rw [none] at member
  cases member

theorem nodup_unfinishedEffectRows (database : Database) (executionId : Identifier) :
    ((database.unfinishedEffectRows executionId).map (·.effectId)).Nodup := by
  have sorted : (database.effectsOf executionId).Perm
      (database.effects.rows.filter fun row => row.executionId = executionId) :=
    perm_insertionSort _ _
  have names : ((database.effectsOf executionId).map (·.effectId)).Nodup := by
    rw [(sorted.map _).nodup_iff]
    exact database.effects.unique.sublist (filter_sublist.map _)
  exact names.sublist (filter_sublist.map _)

theorem parkUnfinishedEffects_parks
    (found : frame.database.executions.find? execution.executionId = some execution) :
    Ensures (parkUnfinishedEffects execution now trigger cancelReason) environment frame
      (Parks now execution.executionId frame) := by
  unfold parkUnfinishedEffects
  refine then_require fun reasoned => ?_
  refine then_require fun _ => ?_
  refine then_read ?_
  split
  · rename_i none
    exact ensures_pure ⟨rfl, settled_of_unfinishedEffectRows none⟩
  · rename_i first rest some
    have members : ∀ row ∈ first :: rest, row ∈ frame.database.effects ∧
        row.executionId = execution.executionId ∧ row.state.unfinished = true := by
      intro row member
      rw [← some] at member
      exact Database.mem_unfinishedEffectRows.mp member
    have distinct : ((first :: rest).map (·.effectId)).Nodup := by
      rw [← some]
      exact nodup_unfinishedEffectRows _ _
    refine ensures_bind ((forEach_parkEffect_works found (fun row member => (members row member).2)
      (fun row member => Table.find?_key (members row member).1) distinct).mono ?_)
    rintro _ middle ⟨worked, parking⟩
    have parked : ∀ row ∈ first :: rest, ∃ stored,
        middle.database.effects.find? row.effectId = Option.some stored ∧
          stored.executionId = execution.executionId ∧ stored.state = .indeterminate := by
      intro row member
      rcases parking.parked row member with pending | ⟨stored, read, owner, uncertain⟩
      · cases pending
      · exact ⟨stored, read, owner.trans (members row member).2.1, uncertain⟩
    have uncertain : (middle.database.ledger execution.executionId).Uncertain
        (recoveryPointer execution first rest) := by
      obtain ⟨row, member, named⟩ := mem_map.mp (recoveryPointer_mem execution first rest)
      obtain ⟨stored, read, owner, state⟩ := parked row member
      rw [← named]
      exact ⟨stored, Database.ledger_effects.mpr ⟨read, owner⟩, state⟩
    have closed : ¬ (middle.database.ledger execution.executionId).OwnsOpen := by
      rintro ⟨effectId, effect, owned, opened⟩
      obtain ⟨read, owner⟩ := Database.ledger_effects.mp owned
      by_cases listed : ∃ row ∈ first :: rest, row.effectId = effectId
      · obtain ⟨row, member, rfl⟩ := listed
        obtain ⟨stored, again, -, state⟩ := parked row member
        rw [read, Option.some.injEq] at again
        rw [again, state] at opened
        cases opened
      · have foreign : ∀ row ∈ first :: rest, row.effectId ≠ effectId :=
          fun row member same => listed ⟨row, member, same⟩
        rw [parking.others effectId foreign] at read
        refine foreign effect ?_ (Table.key_of_find? read)
        rw [← some]
        refine Database.mem_unfinishedEffectRows.mpr ⟨Table.mem_of_find? read, owner, ?_⟩
        cases state : effect.state <;> simp_all [EffectState.open_, EffectState.unfinished]
    have present : middle.database.executions.find? execution.executionId =
        Option.some execution := by
      rw [parking.executions]
      exact found
    refine ensures_bind ((parkExecution_works present uncertain closed reasoned).mono ?_)
    rintro waiting last ⟨state, more⟩
    refine ensures_pure ⟨fun settled => ?_, state, worked.trans more⟩
    obtain ⟨stored, owner, unfinished⟩ := members first mem_cons_self
    rw [settled first.effectId first
      (Database.ledger_effects.mpr ⟨Table.find?_key stored, owner⟩)] at unfinished
    cases unfinished

variable {environment : Environment} {frame : Frame} {now : Timestamp}

/-! ### Moves that need permission -/

theorem works_open {execution : ExecutionRow} {after : EffectRow}
    {previous : Option EffectRow} {eventType : EffectEventType} {data : List (String × Json)}
    (executed : before.executions.find? after.executionId = some execution)
    (owned : ∀ stored, before.effects.find? after.effectId = some stored →
      stored.executionId = after.executionId)
    (found : ∀ effect ∈ previous,
      (before.ledger after.executionId).effects effect.effectId = some effect)
    (perform : Perform now (before.ledger after.executionId) execution eventType previous after)
    (needs : eventType.need = .opening)
    (permitted : before.Permits after.executionId now false) :
    Works now before
      ((before.write (.effect after)).write
        (.effectEvent (effectEvent after eventType (previous.map (·.state)) data now))) :=
  @Works.move _ _ _ _ .opening permitted
    (rewrites_record rfl owned ⟨⟨execution, executed⟩, Move.perform executed found perform needs data⟩)

/-! ### Preparation -/

variable {lease : ExecutionLease}

theorem prepareExisting_works {candidate : EffectRow}
    (found : frame.database.executions.find? lease.executionId = some execution)
    (running : execution.state = .running) (holds : execution.Holds lease)
    (stored : frame.database.effects.find? row.effectId = some row) :
    Relates (Works now) (prepareExisting execution lease row candidate now) environment frame := by
  have own : frame.database.executions.find? execution.executionId = some execution := by
    rw [holds.identity]
    exact found
  have parking : ∀ {trigger : ParkTrigger} {answer : EffectAnswer},
      Relates (Works now) (do
        let _ ← parkUnfinishedEffects execution now trigger
        return answer) environment frame := by
    intro trigger answer
    refine ensures_bind ((parkUnfinishedEffects_parks own).mono fun _ _ parks => ?_)
    exact ensures_pure parks.works.works
  unfold prepareExisting
  refine ensures_bind (effectRecord_ensures fun existing _ => ?_)
  refine then_require fun same => ?_
  refine ensures_ite (fun _ => ensures_pure .refl) (fun _ => ?_)
  refine ensures_ite (fun decided => ?_) (fun _ => ?_)
  · refine ensures_bind (authorized fun permits session => ?_)
    refine ensures_bind (casEffect_ensures ?_)
    refine ensures_bind (effectRecord_ensures fun _ _ => ?_)
    refine ensures_bind (ensures_write (ensures_pure ?_))
    have owner : row.executionId = lease.executionId := same.1
    have present : (frame.database.ledger row.executionId).effects row.effectId = some row :=
      Database.ledger_effects.mpr ⟨stored, rfl⟩
    rw [← decided]
    refine @works_open _ _ execution _ (some row) _ _ ?_ ?_ ?_
      (.reprepare running holds decided) rfl ?_
    · rw [← owner] at found
      exact found
    · intro other again
      have equal : frame.database.effects.find? row.effectId = some other := again
      rw [stored, Option.some.injEq] at equal
      rw [← equal]
      rfl
    · rintro effect ⟨⟩
      exact present
    · rw [← owner] at permits
      exact permits
  refine ensures_ite (fun _ => ensures_pure .refl) (fun _ => ?_)
  refine ensures_ite (fun _ => parking) (fun _ => ?_)
  exact ensures_ite (fun _ => parking) (fun _ => ensures_fail _)

theorem prepareEffectBody_works {name : Identifier} {request : Json} :
    Relates (Works now) (prepareEffectBody lease effectId name request now) environment frame := by
  unfold prepareEffectBody
  refine ensures_bind (assertLease_ensures fun execution found holds member _ => ?_)
  have running : execution.state = .running := List.mem_singleton.mp member
  refine ensures_bind (effectRecord_ensures fun _ _ => ?_)
  refine then_read ?_
  cases stored : frame.database.effects.find? effectId with
  | none =>
    refine ensures_bind (authorized fun permits session => ?_)
    refine ensures_bind (ensures_write (ensures_bind (ensures_write (ensures_pure ?_))))
    refine @works_open _ _ execution _ none _ _ found ?_ ?_ (.prepare running holds ?_) rfl permits
    · intro other again
      have equal : frame.database.effects.find? effectId = some other := again
      cases stored.symm.trans equal
    · rintro effect ⟨⟩
    · cases owned : (frame.database.ledger lease.executionId).effects effectId with
      | none => exact owned
      | some effect =>
        have equal := (Database.ledger_effects.mp owned).1
        cases stored.symm.trans equal
  | some row =>
    have named : frame.database.effects.find? row.effectId = some row := by
      rw [Table.key_of_find? stored]
      exact stored
    exact prepareExisting_works found running holds named

/-! ### Claim, commit and mark -/

theorem claimEffectBody_works :
    Relates (Works now) (claimEffectBody lease effectId now) environment frame := by
  unfold claimEffectBody
  refine ensures_bind (assertLease_ensures fun execution found holds _ _ => ?_)
  refine ensures_bind (getEffectRow_ensures fun row stored => ?_)
  refine ensures_bind (effectRecord_ensures fun _ _ => ?_)
  refine then_lift fun _ matched => ?_
  simp only [effectMatchesLease, ensure_eq_ok] at matched
  refine then_require fun _ => ?_
  refine then_require fun _ => ?_
  refine then_require fun prepared => ?_
  refine ensures_bind (authorized fun permits _ => ?_)
  refine then_check fun claimId _ => ?_
  refine then_require fun _ => ?_
  refine ensures_bind (casEffect_ensures ?_)
  refine ensures_bind (effectRecord_ensures fun _ _ => ?_)
  refine ensures_bind (ensures_write (ensures_pure ?_))
  have owner : row.executionId = lease.executionId := matched.1
  have named : row.effectId = effectId := Table.key_of_find? stored
  rw [← owner] at found permits
  rw [← named] at stored
  rw [← prepared]
  refine @works_open _ _ execution _ (some row) _ _ found ?_ ?_
    (.claim prepared claimId) rfl permits
  · intro other again
    have equal : frame.database.effects.find? row.effectId = some other := again
    rw [stored, Option.some.injEq] at equal
    rw [← equal]
    rfl
  · rintro effect ⟨⟩
    exact Database.ledger_effects.mpr ⟨stored, rfl⟩

variable {claimId : Identifier}

theorem claimedEffect_ensures {condition : EffectRow × EffectRecord → Frame → Prop}
    (holds : ∀ execution row record,
      frame.database.executions.find? row.executionId = some execution →
      frame.database.effects.find? row.effectId = some row → condition (row, record) frame) :
    Ensures (claimedEffect effectId lease claimId now) environment frame condition := by
  unfold claimedEffect
  refine ensures_bind (assertLease_ensures fun execution found _ _ _ => ?_)
  refine ensures_bind (getEffectRow_ensures fun row stored => ?_)
  refine ensures_bind (effectRecord_ensures fun record _ => ?_)
  refine then_lift fun _ matched => ?_
  simp only [effectMatchesLease, ensure_eq_ok] at matched
  refine then_require fun _ => ensures_pure ?_
  rw [← matched.1] at found
  rw [← Table.key_of_find? stored] at stored
  exact holds execution row record found stored

theorem commitEffectBody_works {response : Json} :
    Relates (Works now) (commitEffectBody effectId response lease claimId now) environment frame := by
  unfold commitEffectBody
  refine ensures_bind (claimedEffect_ensures fun execution row record found stored => ?_)
  refine ensures_ite (fun _ => then_require fun _ => ensures_pure .refl)
    (fun _ => ?_)
  refine then_require fun _ => ?_
  refine then_require fun performing => ?_
  refine then_check fun _ _ => ?_
  refine ensures_bind (effectRecord_ensures fun _ _ => ?_)
  refine ensures_bind (casEffect_ensures ?_)
  refine ensures_bind (ensures_write (ensures_pure ?_))
  rw [← performing]
  refine @WorksOn.works _ _ _ row.executionId ?_
  exact works_perform found stored rfl rfl (.commit performing response) rfl

theorem markEffectIndeterminateBody_works {details : Json} :
    Relates (Works now) (markEffectIndeterminateBody effectId details lease claimId now) environment frame := by
  unfold markEffectIndeterminateBody
  refine ensures_bind (claimedEffect_ensures fun execution row record found stored => ?_)
  refine ensures_ite (fun _ => then_require fun _ => ensures_pure .refl)
    (fun _ => ?_)
  refine then_require fun _ => ?_
  refine then_require fun performing => ?_
  refine then_check fun _ _ => ?_
  refine ensures_bind (effectRecord_ensures fun _ _ => ?_)
  refine ensures_bind (casEffect_ensures ?_)
  refine ensures_bind (ensures_write (ensures_pure ?_))
  rw [← performing]
  refine @WorksOn.works _ _ _ row.executionId ?_
  exact works_perform found stored rfl rfl (.mark performing details) rfl

variable {environment : Environment} {frame : Frame} {now : Timestamp}

/-! ### Support -/

theorem Database.Supports.refl (database : Database) : database.Supports database :=
  ⟨.refl database, .refl database, fun _ => rfl⟩

theorem Database.Supports.trans {first second third : Database}
    (left : first.Supports second) (right : second.Supports third) : first.Supports third where
  lives :=
    ⟨right.lives.1.trans left.lives.1, right.lives.2.trans left.lives.2,
      right.lives.3.trans left.lives.3, right.lives.4.trans left.lives.4,
      right.lives.5.trans left.lives.5,
      fun executionId => (right.lives.6 executionId).trans (left.lives.6 executionId)⟩
  runs := left.runs.trans right.runs
  parents executionId := (right.parents executionId).trans (left.parents executionId)

theorem Database.supports_limits {database : Database} {limits : ExecutionLimits}
    (same : limits.parent = database.parentOf limits.executionId) :
    database.Supports { database with executionLimits := database.executionLimits.put limits } := by
  refine ⟨⟨rfl, rfl, rfl, rfl, rfl, fun _ => rfl⟩, ⟨rfl, rfl, rfl, rfl, rfl, rfl⟩, ?_⟩
  intro executionId
  show ((database.executionLimits.put limits).find? executionId).bind (·.parent) = _
  rw [Table.find?_put]
  by_cases own : executionId = limits.executionId
  · rw [if_pos own, own]
    exact same
  · rw [if_neg own]
    rfl

theorem Database.supports_obligations (database : Database)
    (obligations : Table SupervisorObligation.key) :
    database.Supports { database with supervisorObligations := obligations } :=
  ⟨⟨rfl, rfl, rfl, rfl, rfl, fun _ => rfl⟩, ⟨rfl, rfl, rfl, rfl, rfl, rfl⟩, fun _ => rfl⟩

variable {before after : Database} {eventType : EventType} {resultId : Identifier}
  {execution : ExecutionRow}

theorem Works.support (supports : before.Supports after) : Works now before after :=
  ReflTransGen.single (.support supports)

theorem supported {Value Answer : Type} {first : KernelM Value} {rest : Value → KernelM Answer}
    {condition : Value → Prop} (supports : Ensures first environment frame fun value next =>
      frame.database.Supports next.database ∧ condition value)
    (later : ∀ value (next : Frame), frame.database.Supports next.database → condition value →
      Ensures (rest value) environment next
        fun _ last => Works now next.database last.database) :
    Ensures (first >>= rest) environment frame
      fun _ last => Works now frame.database last.database :=
  ensures_bind (supports.mono fun value next supported =>
    works_then (.support supported.1) (later value next supported.1 supported.2))

theorem Database.Supports.find? (supports : before.Supports after) {row : ExecutionRow}
    (found : before.executions.find? executionId = some row) :
    after.executions.find? executionId = some row := by
  rw [supports.lives.executions]
  exact found

variable {result : ExecutionResult}

/-! ### The terminal step -/

theorem insertResultOutbox_ensures {relation : Ledger → Ledger → Prop}
    {start : Database} {row : ExecutionRow} {event : EventDraft}
    (reached : frame.database = (start.write (.execution row)).write (.event event))
    (same : event.executionId = row.executionId) (owned : result.executionId = row.executionId)
    (related : ∀ results, (start.ledger row.executionId).Delivers result results →
      relation (start.ledger row.executionId)
        ((start.ledger row.executionId).enter row event results)) :
    Ensures (insertResultOutbox result now) environment frame fun _ next =>
      start.Rewrites row.executionId relation next.database ∧
        next.database.executions = frame.database.executions := by
  unfold insertResultOutbox
  refine ensures_bind (ensures_ask (then_read ?_))
  have outbox : frame.database.resultOutbox = start.resultOutbox := by
    rw [reached]
    rfl
  split
  · rename_i existing found
    refine ensures_require fun matched => ⟨?_, rfl⟩
    rw [reached]
    refine rewrites_enter same (related _ (.inr ⟨rfl, ?_⟩))
    intro empty
    have member : existing ∈ start.resultOutbox.rows := by
      rw [← outbox]
      exact mem_of_find?_eq_some found
    have listed : existing.result ∈ (start.ledger row.executionId).results :=
      mem_map.mpr ⟨existing, mem_filter.mpr
        ⟨member, decide_eq_true (matched.2.1.trans owned)⟩, rfl⟩
    rw [empty] at listed
    cases listed
  · rename_i missing
    refine ensures_write ⟨?_, rfl⟩
    show start.Rewrites row.executionId relation
      (frame.database.write (.outbox (pendingDelivery result _ now)))
    rw [reached]
    refine rewrites_deliver same owned ?_ (related _ (.inl rfl))
    rw [Table.find?_eq_none_iff]
    intro other member
    have absent := List.find?_eq_none.mp missing other (by rw [outbox]; exact member)
    simp only [decide_eq_true_eq, not_or] at absent
    exact absent.1

theorem terminal_ensures {row : ExecutionRow} (relation : Ledger → Ledger → Prop)
    (found : frame.database.executions.find? row.executionId = some row)
    (owned : result.executionId = row.executionId)
    (related : (frame.database.ledger row.executionId).Settled →
      row.state.canTransition result.status = true →
      ∀ results, (frame.database.ledger row.executionId).Delivers result results →
        relation (frame.database.ledger row.executionId)
          ((frame.database.ledger row.executionId).enter (row.terminated result now)
            ((row.terminated result now).entry eventType (some row.state)
              [("result", result.toDict)]) results)) :
    Ensures (terminal row result eventType now) environment frame fun answer next =>
      (¬ (frame.database.ledger row.executionId).Settled ∧ answer.state = .recoveryRequired ∧
        WorksOn now row.executionId frame.database next.database) ∨
      frame.database.Rewrites row.executionId relation next.database := by
  unfold terminal
  refine ensures_bind ((parkUnfinishedEffects_parks found).mono fun parked middle done => ?_)
  cases parked with
  | some waiting => exact ensures_pure (.inl done)
  | none =>
    obtain ⟨rfl, settled⟩ := done
    refine then_lift fun _ reduced => ?_
    refine ensures_bind (casExecution_ensures ?_)
    refine ensures_bind (appendEvent_ensures ?_)
    refine ensures_bind ((@insertResultOutbox_ensures _ _ _ _ _ middle.database (row.terminated result now) _ rfl rfl owned
      (related settled (reduceState_ok reduced).2)).mono ?_)
    rintro _ next ⟨rewrites, -⟩
    exact ensures_bind (getRow_ensures fun stored _ => ensures_lift fun _ _ => Or.inr rewrites)

theorem terminal_works {row : ExecutionRow}
    (found : frame.database.executions.find? row.executionId = some row)
    (answers : result.AnswersFor row) (ending : eventType.ends = true)
    (alone : eventType.disposes = false) (ordinary : row.state ≠ .recoveryRequired) :
    Relates (WorksOn now row.executionId) (terminal row result eventType now) environment frame := by
  refine (terminal_ensures (fun ledger next =>
    (∃ row, ledger.row = some row) ∧ Move now ledger .nothing next) found answers.execution
    fun settled allowed results delivers => ⟨⟨row, found⟩, ?_⟩).mono ?_
  · refine Move.transit found (.finish ending alone ordinary allowed settled answers delivers)
      alone ?_ _
    cases eventType <;> first | rfl | cases ending
  · rintro _ next (⟨-, -, worked⟩ | rewrites)
    · exact worked
    · exact WorksOn.move rewrites

/-! ### Results the kernel makes -/

variable {row : ExecutionRow}

variable {effectIds : List Identifier}

theorem deadResult_ok {code : Identifier} {message : String} {details : List (String × Json)}
    (made : deadResult row now code message details resultId effectIds = .ok result) :
    result.AnswersFor row ∧ result.status = .dead := by
  have fields := ExecutionResult.make_fields made
  exact ⟨⟨congrArg ResultFields.executionId fields, congrArg ResultFields.attempt fields,
    congrArg ResultFields.fence fields, congrArg ResultFields.correlationId fields,
    congrArg ResultFields.causationId fields⟩, congrArg ResultFields.status fields⟩

theorem cancelledResult_ok {reason : Identifier}
    (made : cancelledResult row now reason resultId effectIds = .ok result) :
    result.AnswersFor row ∧ result.status = .cancelled ∧
      result.error.map (·.message) = some reason.text := by
  have fields := ExecutionResult.make_fields made
  refine ⟨⟨congrArg ResultFields.executionId fields, congrArg ResultFields.attempt fields,
    congrArg ResultFields.fence fields, congrArg ResultFields.correlationId fields,
    congrArg ResultFields.causationId fields⟩, congrArg ResultFields.status fields, ?_⟩
  have error := congrArg ResultFields.error fields
  rw [error]
  rfl

/-! ### Completion -/

theorem tightenCompletionBudget_supports {envelope : BudgetEnvelope} :
    Ensures (tightenCompletionBudget row lease envelope) environment frame
      fun _ next => frame.database.Supports next.database := by
  unfold tightenCompletionBudget
  refine then_read ?_
  cases stored : frame.database.executionLimits.find? lease.executionId with
  | none =>
    refine then_require fun _ => ?_
    refine then_check fun _ _ => then_check fun _ _ => ?_
    refine ensures_bind (ensures_modify (ensures_pure (Database.supports_limits ?_)))
    simp [Database.parentOf, stored]
  | some limits =>
    refine then_lift fun _ _ => then_check fun _ _ => ?_
    refine ensures_bind (ensures_modify (ensures_pure (Database.supports_limits ?_)))
    show limits.parent = frame.database.parentOf limits.executionId
    rw [Table.key_of_find? stored]
    simp [Database.parentOf, stored]

theorem validateResult_ensures {envelope : Option BudgetEnvelope}
    (identity : row.executionId = lease.executionId) :
    Ensures (validateResult row lease result now envelope) environment frame
      fun _ next => frame.database.Supports next.database ∧ result.AnswersFor row := by
  unfold validateResult
  refine then_require fun bound => ?_
  obtain ⟨execution, attempt, -, fence, -, correlation, causation, -⟩ := bound
  have answers : result.AnswersFor row :=
    ⟨execution.trans identity.symm, attempt, fence, correlation, causation⟩
  have accepted : Ensures (validateResult.acceptanceTime row lease now envelope) environment
      frame fun _ next => frame.database.Supports next.database := by
    unfold validateResult.acceptanceTime
    cases envelope with
    | none => exact ensures_pure (.refl _)
    | some presented =>
      refine ensures_bind (tightenCompletionBudget_supports.mono fun _ _ supports => ?_)
      exact ensures_bind (ensures_ask (then_check fun _ _ => ensures_pure supports))
  refine ensures_bind (accepted.mono fun _ middle supports => ?_)
  refine then_require fun _ => ?_
  exact then_read (ensures_require fun _ => ⟨supports, answers⟩)

theorem resolveSupervisor_supports {resolution : Json.Text} {uncertain : Bool} :
    Ensures (resolveSupervisor lease resolution uncertain) environment frame
      fun _ next => frame.database.Supports next.database := by
  unfold resolveSupervisor
  refine then_check fun _ _ => then_read ?_
  split
  · exact ensures_require fun _ => .refl _
  · refine then_require fun _ => ensures_modify ?_
    exact Database.supports_obligations _ _

theorem scheduleRetry_works (found : frame.database.executions.find? row.executionId = some row)
    (running : row.state = .running) (spare : row.attempt < row.command.retryPolicy.maxAttempts)
    (settled : (frame.database.ledger row.executionId).Settled) :
    Relates (Works now) (scheduleRetry row result now) environment frame := by
  unfold scheduleRetry
  refine ensures_bind (ensures_ask (then_lift fun _ _ => ?_))
  refine then_lift fun nextAt _ => ?_
  refine ensures_bind (casExecution_ensures (ensures_bind (appendEvent_ensures ?_)))
  refine ensures_bind (getRow_ensures fun stored _ => ensures_lift fun _ _ => ?_)
  rw [← running]
  refine @WorksOn.works _ _ _ row.executionId ?_
  exact works_transit found (.requeue rfl (by rw [running]; rfl) spare settled nextAt) rfl rfl

variable {options : CompletionOptions}

theorem checkBudgetClock_supports :
    Ensures (completeLive.checkBudgetClock lease options) environment frame
      fun _ next => frame.database.Supports next.database ∧ True :=
  ensures_ite (fun _ => checked fun _ _ => ⟨.refl _, trivial⟩)
    fun _ => ensures_pure ⟨.refl _, trivial⟩

variable {hostRecord : Option Json.Text}

theorem resolveIfSupervised_supports :
    Ensures (completeLive.resolveIfSupervised lease result options hostRecord) environment frame
      fun _ next => frame.database.Supports next.database ∧ True :=
  ensures_ite (fun _ => resolveSupervisor_supports.mono fun _ _ supports => ⟨supports, trivial⟩)
    fun _ => ensures_pure ⟨.refl _, trivial⟩

theorem completeLive_works :
    Relates (Works now) (completeLive lease result options hostRecord now) environment frame := by
  unfold completeLive
  refine ensures_bind (assertLease_ensures fun row found holds member _ => ?_)
  have running : row.state = .running := mem_singleton.mp member
  have ordinary : row.state ≠ .recoveryRequired := by
    rw [running]
    decide
  rw [← holds.identity] at found
  refine then_check fun _ session => ?_
  refine supported checkBudgetClock_supports fun _ clocked clockedBy _ => ?_
  refine supported (validateResult_ensures holds.identity) fun _ valid validBy answers => ?_
  have stored := validBy.find? (clockedBy.find? found)
  refine ensures_bind ((parkUnfinishedEffects_parks stored).mono fun parked middle done => ?_)
  cases parked with
  | some waiting => exact ensures_pure done.2.2.works
  | none =>
    obtain ⟨rfl, settled⟩ := done
    refine supported resolveIfSupervised_supports fun _ resolved resolvedBy _ => ?_
    have kept := resolvedBy.find? stored
    have free : (resolved.database.ledger row.executionId).Settled := by
      rw [resolvedBy.lives.ledger]
      exact settled
    refine then_read ?_
    refine ensures_ite (fun _ => ?_) fun _ =>
      (terminal_works kept answers rfl rfl ordinary).mono fun _ _ worked => worked.works
    refine ensures_ite (fun _ => ?_) fun spare =>
      scheduleRetry_works kept running (Nat.lt_of_not_le spare) free
    refine then_lift fun dead made => ?_
    exact (terminal_works kept (deadResult_ok made).1 rfl rfl ordinary).mono
      fun _ _ worked => worked.works

theorem replayCompletion_works
    (found : frame.database.executions.find? lease.executionId = some row) :
    Relates (Works now) (replayCompletion row lease result options hostRecord now) environment frame := by
  have identity : row.executionId = lease.executionId := Table.key_of_find? found
  have revalidated : Ensures (replayCompletion.revalidate row lease result options now)
      environment frame fun _ next => frame.database.Supports next.database ∧ True := by
    unfold replayCompletion.revalidate
    cases options.budgetEnvelope with
    | none => exact ensures_pure ⟨.refl _, trivial⟩
    | some envelope =>
      refine then_check fun _ _ => ?_
      exact (validateResult_ensures identity).mono fun _ _ valid => ⟨valid.1, trivial⟩
  unfold replayCompletion
  refine then_require fun _ => then_require fun _ => ?_
  refine supported revalidated fun _ valid _ _ => ?_
  refine ensures_ite (fun _ => ?_) fun _ => ensures_lift fun _ _ => .refl
  refine then_require fun _ => ?_
  refine supported (resolveSupervisor_supports.mono fun _ _ supports => ⟨supports, trivial⟩)
    fun _ _ _ _ => ?_
  exact ensures_lift fun _ _ => .refl

theorem completeResultBody_works :
    Relates (Works now) (completeResultBody lease result options now) environment frame := by
  have completes : ∀ {hostRecord : Option Json.Text} {frame : Frame},
      Relates (Works now) (completeRow lease result options hostRecord now) environment frame := by
    intro hostRecord frame
    unfold completeRow
    refine ensures_bind (getRow_ensures fun row found => ?_)
    exact ensures_ite (fun _ => replayCompletion_works found) fun _ => completeLive_works
  unfold completeResultBody
  cases options.reconciliation with
  | none => exact completes
  | some reconciliation =>
    refine ensures_bind ?_
    have reconciled : Ensures (reconcile lease result reconciliation options now) environment
        frame fun _ next => next.database = frame.database := by
      unfold reconcile
      refine then_read (then_require fun _ => ?_)
      refine then_check fun _ _ => then_check fun _ _ => ?_
      refine then_check fun _ _ => ensures_bind (ensures_ask ?_)
      refine then_check fun _ _ => then_require fun _ => ?_
      refine ensures_bind (getRow_ensures fun row _ => then_require fun _ => ?_)
      refine then_expect fun obligation _ => ?_
      cases obligation.resolution with
      | none => exact ensures_pure rfl
      | some recorded =>
        refine then_require fun _ => then_require fun _ => ?_
        refine then_require fun _ => then_require fun _ => ?_
        exact then_lift fun _ _ => ensures_pure rfl
    refine reconciled.mono ?_
    rintro ⟨record, settled⟩ next same
    rw [← same]
    cases settled with
    | some current => exact ensures_pure .refl
    | none => exact completes

/-! ### Recovery on request, dead letters -/

theorem requireEffectRecoveryBody_works {settlement : Bool} :
    Relates (Works now) (requireEffectRecoveryBody lease effectId settlement now) environment frame := by
  unfold requireEffectRecoveryBody
  refine ensures_bind (assertLease_ensures fun row found holds _ _ => ?_)
  rw [← holds.identity] at found
  refine then_read (then_require fun _ => ?_)
  exact (parkUnfinishedEffects_parks found).mono fun _ _ parks => parks.works.works

variable {state : ExecutionState}

theorem held_of_mem (member : state ∈ [ExecutionState.leased, .running]) : state.held = true := by
  simp only [mem_cons, not_mem_nil, or_false] at member
  rcases member with rfl | rfl <;> rfl

theorem ordinary_of_held (held : state.held = true) : state ≠ .recoveryRequired := by
  rintro rfl
  cases held

theorem deadLetterBody_works {error : ExecutionError} :
    Relates (Works now) (deadLetterBody lease error now) environment frame := by
  unfold deadLetterBody
  refine ensures_bind (assertLease_ensures fun row found holds member _ => ?_)
  rw [← holds.identity] at found
  refine then_check fun _ session => ?_
  refine ensures_bind ((@parkUnfinishedEffects_parks _ ⟨frame.database, session⟩ _ _ _ _
    found).mono fun parked middle done => ?_)
  cases parked with
  | some waiting => exact ensures_pure done.2.2.works
  | none =>
    obtain ⟨rfl, -⟩ := done
    refine then_read (then_check fun resultId drawn => ?_)
    refine then_lift fun dead made => ?_
    exact (@terminal_works _ ⟨frame.database, drawn⟩ _ _ _ _ found (deadResult_ok made).1 rfl rfl
      (ordinary_of_held (held_of_mem member))).mono fun _ _ worked => worked.works

/-! ### Cancellation -/

variable {reason : Identifier}

theorem cancelLive_works (found : frame.database.executions.find? row.executionId = some row)
    (ordinary : row.state ≠ .recoveryRequired) :
    Relates (Works now) (cancelLive executionId row reason now) environment frame := by
  unfold cancelLive
  refine ensures_bind ((parkUnfinishedEffects_parks found).mono fun parked middle done => ?_)
  cases parked with
  | some waiting =>
    obtain ⟨effectId, pointer⟩ := Option.isSome_iff_exists.mp (waiting.recovery_pointer done.2.1)
    simp only [Option.bind_some, pointer]
    exact ensures_pure done.2.2.works
  | none =>
    obtain ⟨rfl, -⟩ := done
    refine then_read (then_check fun resultId drawn => ?_)
    refine then_lift fun result made => ?_
    refine ensures_bind ((@terminal_works _ ⟨middle.database, drawn⟩ _ _ _ _ found
      (cancelledResult_ok made).1 rfl rfl ordinary).mono fun _ _ worked => ?_)
    exact ensures_pure worked.works

variable {authority : CancelAuthority}

theorem authorizeCancel_ensures (found : frame.database.executions.find? row.executionId = some row)
    (ordinary : row.state ≠ .recoveryRequired) :
    Ensures (authorizeCancel row authority now) environment frame fun current next =>
      next = frame ∧ current.state ≠ .recoveryRequired ∧
        frame.database.executions.find? current.executionId = some current := by
  unfold authorizeCancel
  refine ensures_ite (fun _ => ?_) fun _ => ?_
  · cases authority with
    | none => exact ensures_fail _
    | revision expected =>
      exact then_require fun _ => ensures_pure ⟨rfl, ordinary, found⟩
    | lease lease =>
      refine assertLease_ensures fun current present holds member _ => ?_
      rw [← holds.identity] at present
      exact ⟨rfl, ordinary_of_held (held_of_mem member), present⟩
  · cases authority with
    | revision expected =>
      exact then_require fun _ => ensures_pure ⟨rfl, ordinary, found⟩
    | lease | none => exact ensures_pure ⟨rfl, ordinary, found⟩

theorem cancelRecovering_works
    (found : frame.database.executions.find? row.executionId = some row) :
    Relates (Works now) (cancelRecovering row authority reason now) environment frame := by
  unfold cancelRecovering
  cases authority with
  | lease | none => exact ensures_pure .refl
  | revision expected =>
    refine then_require fun _ => ?_
    refine ensures_bind ((parkUnfinishedEffects_parks found).mono fun _ _ parks => ?_)
    exact ensures_pure parks.works.works

theorem cancelBody_works {expected : Option StallDisposition} :
    Relates (Works now) (cancelBody executionId authority reason expected now) environment frame := by
  unfold cancelBody
  refine ensures_bind (getRow_ensures fun row found => ?_)
  rw [← Table.key_of_find? found] at found
  have stalled : Ensures (cancelBody.expectStall expected row) environment frame
      fun _ next => next = frame := by
    unfold cancelBody.expectStall
    cases expected with
    | none => exact ensures_pure rfl
    | some disposition => exact then_read (ensures_require fun _ => rfl)
  have paused : Ensures (requirePausedRun executionId) environment frame
      fun _ next => next = frame := by
    unfold requirePausedRun
    refine then_read ?_
    split
    · exact ensures_require fun _ => rfl
    · exact then_expect fun _ _ => ensures_require fun _ => rfl
  refine ensures_bind (stalled.mono ?_)
  rintro _ _ rfl
  refine ensures_ite (fun _ => ?_) fun _ => ?_
  · exact then_require fun _ => then_lift fun _ _ =>
      ensures_pure .refl
  refine ensures_bind (paused.mono ?_)
  rintro _ _ rfl
  refine ensures_ite (fun _ => ?_) fun ordinary => ?_
  · refine ensures_bind ((cancelRecovering_works found).mono fun _ _ worked => ?_)
    exact then_expect fun _ _ => ensures_pure worked
  · refine ensures_bind ((authorizeCancel_ensures found ordinary).mono ?_)
    rintro current _ ⟨rfl, live, present⟩
    exact cancelLive_works present live

/-! ### Decisions about uncertain effects -/

/-- What a decision about an effect does to the ledger of its execution. -/
def Resolves (now : Timestamp) (effect : EffectRow) (decision : RecoveryDecision)
    (response : Json) (recoveryId : Identifier) (ledger resolved : Ledger) : Prop :=
  ledger.effects effect.effectId = some effect ∧
    resolved = ledger.record (effect.resolved decision response recoveryId now)
      (effect.resolvedEvent decision response recoveryId now)

/-- The disposition that follows a decision is a transition of the row in the ledger in which the
decision is recorded. -/
def Disposes (now : Timestamp) (row : ExecutionRow) (ledger next : Ledger) : Prop :=
  ∃ eventType after results data, Transit now ledger row eventType after results ∧
    eventType.disposes = true ∧
    next = ledger.enter after (after.entry eventType (some row.state) data) results

theorem disposes_transit {after : ExecutionRow}
    (transit : Transit now (before.ledger row.executionId) row eventType after
      (before.ledger row.executionId).results) (disposing : eventType.disposes = true) :
    before.Rewrites row.executionId (Disposes now row)
      ((before.write (.execution after)).write
        (.event (after.entry eventType (some row.state) data))) := by
  have same := transit.succeeds.executionId
  rw [← same] at transit ⊢
  exact rewrites_enter rfl ⟨eventType, after, _, data, transit, disposing, rfl⟩

theorem cancelRecovered_disposes
    (found : frame.database.executions.find? execution.executionId = some execution)
    (parked : execution.state = .recoveryRequired)
    (wanted : execution.recoveryTargetState = some .cancelled) :
    Ensures (cancelRecovered execution now) environment frame fun _ next =>
      frame.database.Rewrites execution.executionId (Disposes now execution) next.database := by
  unfold cancelRecovered
  refine then_expect fun reason reasoned => ?_
  refine then_read (then_check fun resultId drawn => ?_)
  refine then_lift fun result made => ?_
  obtain ⟨answers, cancelled, explained⟩ := cancelledResult_ok made
  refine ensures_bind ((@terminal_ensures _ ⟨frame.database, drawn⟩ _ _ _ _ (Disposes now execution) found answers.execution
    fun settled _ results delivers => ⟨.cancelledAfterEffectRecovery, _, results, _,
      .cancel parked wanted reasoned cancelled explained settled answers delivers, rfl,
      rfl⟩).mono ?_)
  rintro ended next outcome
  refine ensures_require fun terminated => ?_
  rcases outcome with ⟨-, waiting, -⟩ | rewrites
  · rw [terminated] at waiting
    cases waiting
  · exact rewrites

theorem disposeRecovered_disposes {effectId recoveryId : Identifier} {decision : RecoveryDecision}
    (found : frame.database.executions.find? execution.executionId = some execution)
    (parked : execution.state = .recoveryRequired) :
    Ensures (disposeRecovered execution effectId decision recoveryId now) environment frame
      fun _ next =>
        frame.database.Rewrites execution.executionId (Disposes now execution) next.database := by
  unfold disposeRecovered
  refine then_read ?_
  cases pending : frame.database.nextIndeterminate execution.executionId with
  | some next =>
    obtain ⟨member, owner, uncertain⟩ := Database.nextIndeterminate_some pending
    refine ensures_bind (casExecution_ensures (appendEvent_ensures ?_))
    rw [← parked]
    refine disposes_transit (.next parked ⟨next, ?_, uncertain⟩) rfl
    exact Database.ledger_effects_of_mem member owner
  | none =>
    refine ensures_ite (fun wanted => cancelRecovered_disposes found parked wanted)
      fun unwanted => ?_
    refine then_lift fun _ _ => ?_
    refine ensures_bind (casExecution_ensures (appendEvent_ensures ?_))
    rw [← parked]
    refine disposes_transit (.resume parked ?_ unwanted) rfl
    rintro name ⟨effect, owned, uncertain⟩
    obtain ⟨read, owner⟩ := Database.ledger_effects.mp owned
    exact Database.nextIndeterminate_none pending (Table.mem_of_find? read) owner uncertain

variable {recoveryId : Identifier} {decision : RecoveryDecision}

variable {response : Json} {expectedRevision : ℕ}

theorem resolveUndecided_works {row : EffectRow}
    (stored : frame.database.effects.find? effectId = some row) :
    Ensures (resolveUndecided row effectId decision response expectedRevision recoveryId now)
      environment frame fun _ next => Works now frame.database next.database := by
  have named : row.effectId = effectId := Table.key_of_find? stored
  subst named
  unfold resolveUndecided
  refine then_require fun _ => then_require fun uncertain => ?_
  refine ensures_bind (getRow_ensures fun execution found => ?_)
  refine then_require fun parked => ?_
  refine ensures_bind (effectRecord_ensures fun _ _ => ?_)
  refine ensures_bind (casEffect_ensures (ensures_bind (ensures_write ?_)))
  have owner : execution.executionId = row.executionId := Table.key_of_find? found
  have recorded : frame.database.Rewrites row.executionId
      (fun ledger resolved => ledger.row = some execution ∧
        Resolves now row decision response recoveryId ledger resolved)
      ((frame.database.write (.effect (row.resolved decision response recoveryId now))).write
        (.effectEvent (row.resolvedEvent decision response recoveryId now))) := by
    refine @rewrites_record _ _ (row.resolved decision response recoveryId now) _ rfl ?_
      ⟨found, Database.ledger_effects.mpr ⟨stored, rfl⟩, rfl⟩
    intro other again
    have equal : frame.database.effects.find? row.effectId = some other := again
    rw [stored, Option.some.injEq] at equal
    rw [← equal]
    rfl
  rw [← owner] at found
  refine ensures_bind ((@disposeRecovered_disposes _ ⟨(frame.database.write
    (.effect (row.resolved decision response recoveryId now))).write
      (.effectEvent (row.resolvedEvent decision response recoveryId now)), frame.session⟩ _ _ _ _ _
    found parked.1).mono fun _ next disposed => ensures_pure ?_)
  rw [owner] at disposed
  refine (WorksOn.move ((recorded.comp disposed).mono ?_)).works
  rintro before after ⟨_, ⟨present, owned, rfl⟩, eventType, last, results, data, transit,
    disposing, rfl⟩
  exact ⟨⟨execution, present⟩,
    Move.resolve present parked.2 owned uncertain rfl transit disposing data⟩

theorem resolveEffectBody_works :
    Ensures (resolveEffectBody effectId decision response expectedRevision recoveryId now)
      environment frame fun _ next => Works now frame.database next.database := by
  unfold resolveEffectBody
  refine ensures_bind (getEffectRow_ensures fun row stored => ?_)
  refine ensures_bind (effectRecord_ensures fun record _ => ?_)
  cases row.recoveryId with
  | some recorded =>
    exact then_require fun _ => then_require fun _ =>
      ensures_pure .refl
  | none => exact resolveUndecided_works stored

end DispatcherSdk.ExecutionKernel
