/-
This file is about the claims of children: executions that are bound to an attempt of a
parent, whose deadlines they inherit.

A scan passes over children, and `claim_and_start` of a named child makes sure that the parent
still runs the attempt; `claim` can name a child as well and makes sure of none of this. A claim
walks the ancestry from the child and gives up after 64 nodes. The binding walks it from the
parent, and so a child may be bound that can never be claimed.
-/

import DispatcherSdk.ExecutionKernel.EffectHistory
import DispatcherSdk.ExecutionKernel.ResultDelivery
import DispatcherSdk.ExecutionKernel.RunHistory
import DispatcherSdk.Library.Searches

namespace DispatcherSdk.ExecutionKernel

open Library Library.Attempt Relation List

/-! ### What collecting leaves alone -/

/-- Nothing is leased, and the limits of executions are as they were. -/
structure Database.Withholds (before after : Database) : Prop where
  limits : after.executionLimits = before.executionLimits
  events : ∃ new, after.events = before.events ++ new ∧ ∀ event ∈ new, event.eventType ≠ .leased

namespace Database.Withholds

theorem refl (database : Database) : database.Withholds database :=
  ⟨rfl, [], (append_nil _).symm, fun _ absent => absurd absent not_mem_nil⟩

theorem trans {first second third : Database} (left : first.Withholds second)
    (right : second.Withholds third) : first.Withholds third := by
  obtain ⟨early, same, unleased⟩ := left.events
  obtain ⟨late, later, still⟩ := right.events
  refine ⟨right.limits.trans left.limits, early ++ late, ?_, fun event member => ?_⟩
  · rw [later, same, append_assoc]
  · rcases mem_append.mp member with here | there
    · exact unleased event here
    · exact still event there

theorem write (database : Database) (entry : Write)
    (unleased : ∀ draft, entry = .event draft → draft.eventType ≠ .leased) :
    database.Withholds (database.write entry) := by
  cases entry with
  | event draft =>
    refine ⟨rfl, [⟨draft, _⟩], rfl, fun event member => ?_⟩
    rw [mem_singleton.mp member]
    exact unleased draft rfl
  | execution | effect | effectEvent | outbox =>
    exact ⟨rfl, [], (append_nil _).symm, fun _ absent => absurd absent not_mem_nil⟩

end Database.Withholds

section Collecting

variable {environment : Environment} {frame : Frame} {now : Timestamp}

theorem withheld_bind {Value Answer : Type} {first : KernelM Value} {rest : Value → KernelM Answer}
    (here : Ensures first environment frame
      fun _ next => frame.database.Withholds next.database)
    (later : ∀ value (next : Frame), Ensures (rest value) environment next
      fun _ last => next.database.Withholds last.database) :
    Ensures (first >>= rest) environment frame
      fun _ last => frame.database.Withholds last.database :=
  ensures_bind (here.mono fun value next kept =>
    (later value next).mono fun _ _ more => kept.trans more)

theorem withheld_same {Answer : Type} {program : KernelM Answer}
    (same : Ensures program environment frame fun _ next => next.database = frame.database) :
    Ensures program environment frame fun _ next => frame.database.Withholds next.database :=
  same.mono fun _ _ kept => by rw [kept]; exact .refl _

theorem withheld_forEach {Value : Type} {items : List Value} {program : Value → KernelM Unit}
    (each : ∀ item (frame : Frame), Ensures (program item) environment frame
      fun _ next => frame.database.Withholds next.database) :
    Ensures (forEach items program) environment frame
      fun _ next => frame.database.Withholds next.database :=
  ensures_forEach (fun _ (next : Frame) => frame.database.Withholds next.database)
    (.refl _) fun item _ current kept => (each item current).mono fun _ _ more => kept.trans more

theorem casExecution_withholds {before after : ExecutionRow} {operation : String} :
    Ensures (casExecution before after operation) environment frame
      fun _ next => frame.database.Withholds next.database :=
  casExecution_ensures (.write _ (.execution after) fun _ other => by cases other)

theorem appendEvent_withholds {draft : EventDraft} (unleased : draft.eventType ≠ .leased) :
    Ensures (appendEvent draft) environment frame
      fun _ next => frame.database.Withholds next.database :=
  appendEvent_ensures (.write _ (.event draft) fun other same => by cases same; exact unleased)

variable {row : ExecutionRow}

theorem snapshot_withholds :
    Ensures (snapshot row) environment frame fun _ next => frame.database.Withholds next.database :=
  ensures_lift fun _ _ => .refl _

theorem getRow_withholds {executionId : Identifier} :
    Ensures (getRow executionId) environment frame
      fun _ next => frame.database.Withholds next.database :=
  getRow_ensures fun _ _ => .refl _

variable {trigger : ParkTrigger}

theorem parkEffect_withholds {row : EffectRow} :
    Ensures (parkEffect trigger now row) environment frame
      fun _ next => frame.database.Withholds next.database := by
  unfold parkEffect
  refine ensures_bind (effectRecord_ensures fun record _ => ?_)
  refine ensures_ite (fun _ => ?_) fun _ => ensures_pure (.refl _)
  refine ensures_bind (casEffect_ensures (ensures_bind (effectRecord_ensures fun _ _ => ?_)))
  refine ensures_write ?_
  have stored := Database.Withholds.write frame.database (.effect (row.parked trigger now))
    fun _ other => by cases other
  exact stored.trans (.write _ (.effectEvent _) fun _ other => by cases other)

variable {execution : ExecutionRow} {cancelReason : Option Identifier}

theorem parkExecution_withholds {first : EffectRow} {rest : List EffectRow} :
    Ensures (parkExecution execution first rest trigger cancelReason now) environment frame
      fun _ next => frame.database.Withholds next.database := by
  unfold parkExecution
  refine withheld_bind (getEffectRow_ensures fun _ _ => .refl _) fun pointerRow middle => ?_
  refine ensures_ite (fun _ => ?_) fun _ => ?_
  · refine ensures_ite (fun _ => snapshot_withholds) fun _ => ?_
    refine withheld_bind casExecution_withholds fun _ _ => ?_
    refine withheld_bind (appendEvent_withholds ?_) fun _ _ =>
      withheld_bind getRow_withholds fun _ _ => snapshot_withholds
    dsimp only
    split <;> exact fun leased => nomatch leased
  · refine then_lift fun _ _ => ?_
    refine withheld_bind casExecution_withholds fun _ _ => ?_
    refine withheld_bind (appendEvent_withholds ?_) fun _ _ =>
      withheld_bind getRow_withholds fun _ _ => snapshot_withholds
    dsimp only
    split <;> exact fun leased => nomatch leased

theorem parkUnfinishedEffects_withholds :
    Ensures (parkUnfinishedEffects execution now trigger cancelReason) environment frame
      fun _ next => frame.database.Withholds next.database := by
  unfold parkUnfinishedEffects
  refine then_require fun _ => then_require fun _ => ?_
  refine then_read ?_
  split
  · exact ensures_pure (.refl _)
  · refine withheld_bind (withheld_forEach fun _ _ => parkEffect_withholds) fun _ _ => ?_
    exact withheld_bind parkExecution_withholds fun _ _ => ensures_pure (.refl _)

theorem terminal_withholds {result : ExecutionResult}
    {eventType : EventType} (unleased : eventType ≠ .leased) :
    Ensures (terminal row result eventType now) environment frame
      fun _ next => frame.database.Withholds next.database := by
  unfold terminal
  refine withheld_bind parkUnfinishedEffects_withholds fun parked _ => ?_
  cases parked with
  | some waiting => exact ensures_pure (.refl _)
  | none =>
    refine then_lift fun _ _ => ?_
    refine withheld_bind casExecution_withholds fun _ _ => ?_
    refine withheld_bind (appendEvent_withholds unleased) fun _ _ => ?_
    refine withheld_bind ?_ fun _ _ =>
      withheld_bind getRow_withholds fun _ _ => snapshot_withholds
    unfold insertResultOutbox
    refine ensures_bind (ensures_ask (then_read ?_))
    split
    · exact ensures_require fun _ => .refl _
    · exact ensures_write (.write _ (.outbox _) fun _ other => by cases other)

theorem reapRow_withholds :
    Ensures (reapRow now row) environment frame
      fun _ next => frame.database.Withholds next.database := by
  unfold reapRow
  refine withheld_bind parkUnfinishedEffects_withholds fun parked _ => ?_
  cases parked with
  | some waiting => exact ensures_pure (.refl _)
  | none =>
    refine ensures_ite (fun _ => ?_) fun _ => ?_
    · refine then_read (withheld_bind
        (withheld_same (checked fun _ _ => rfl)) fun _ _ => ?_)
      refine then_lift fun _ _ => ?_
      exact withheld_bind (terminal_withholds fun leased => nomatch leased) fun _ _ =>
        ensures_pure (.refl _)
    · unfold redeliverExpired
      refine ensures_bind (ensures_ask (then_lift fun _ _ => ?_))
      refine then_lift fun _ _ => ?_
      exact withheld_bind casExecution_withholds fun _ _ =>
        appendEvent_withholds fun leased => nomatch leased

end Collecting

variable {environment : Environment} {now : Timestamp} {before after : Database}

theorem reapInTransaction_withholds {frame : Frame} :
    Ensures (reapInTransaction now) environment frame fun _ next =>
      frame.database.Withholds next.database ∧ ∀ executionId,
        (∀ row, frame.database.executions.find? executionId = some row →
          frame.database.reapable now row = false) →
        next.database.executions.find? executionId =
          frame.database.executions.find? executionId := by
  have withheld : Ensures (reapInTransaction now) environment frame fun _ next =>
      frame.database.Withholds next.database := by
    unfold reapInTransaction
    refine then_read ?_
    exact withheld_bind (withheld_forEach fun _ _ => reapRow_withholds) fun _ _ =>
      ensures_pure (.refl _)
  exact (withheld.and reapInTransaction_collects).mono fun _ _ both => ⟨both.1, both.2.2⟩

/-! ### Live parents -/

/-- The parent of a child runs the attempt that the child is bound to, its lease has not expired at a
time, and the handler entry of that attempt is confirmed. -/
structure Database.ParentLive (database : Database) (now : Timestamp) (binding : ParentBinding) :
    Prop where
  running : ∃ row, database.executions.find? binding.executionId = some row ∧
    row.state = .running ∧ row.attempt = binding.attempt ∧ row.fence = binding.fence ∧
      ∃ lease ∈ row.lease, now < lease.expiresAt
  entered : ∃ limits, database.executionLimits.find? binding.executionId = some limits ∧
    limits.entry = .confirmed binding.attempt binding.fence

/-- If an execution is a child, its parent is live. -/
def Database.ChildGuarded (database : Database) (now : Timestamp) (executionId : Identifier) :
    Prop :=
  ∀ binding, database.parentOf executionId = some binding → database.ParentLive now binding

/-- In a step every child that is leased has, in the tables that the step leaves, a parent that is
live at the time of the lease. -/
def Database.GuardsChildren (before after : Database) : Prop :=
  ∃ new, after.events = before.events ++ new ∧ ∀ event ∈ new, event.eventType = .leased →
    after.ChildGuarded event.createdAt event.executionId

/-- The parent of a child is the same in tables with the same limits, and it is still live if its row
is the same. -/
theorem Database.ChildGuarded.congr
    {executionId : Identifier} (guarded : before.ChildGuarded now executionId)
    (limits : after.executionLimits = before.executionLimits)
    (rows : ∀ binding row, before.parentOf executionId = some binding →
      before.executions.find? binding.executionId = some row → row.state = .running →
        (∃ lease ∈ row.lease, now < lease.expiresAt) →
          after.executions.find? binding.executionId = some row) :
    after.ChildGuarded now executionId := by
  intro binding bound
  have bound : before.parentOf executionId = some binding := by
    unfold Database.parentOf at bound ⊢
    rw [← limits]
    exact bound
  obtain ⟨⟨row, stored, running, attempt, fence, live⟩, entered⟩ := guarded binding bound
  refine ⟨⟨row, rows binding row bound stored running live, running, attempt, fence, live⟩, ?_⟩
  rw [limits]
  exact entered

theorem Database.GuardsChildren.of_withholds
    (withholds : before.Withholds after) : before.GuardsChildren after := by
  obtain ⟨new, events, unleased⟩ := withholds.events
  exact ⟨new, events, fun event member leased => absurd leased (unleased event member)⟩

theorem Database.GuardsChildren.lease {middle : Database}
    {row : ExecutionRow} {new : List EventRow} (withholds : before.Withholds middle)
    (found : middle.executions.find? row.executionId = some row) (queued : row.state = .queued)
    (guarded : middle.ChildGuarded now row.executionId)
    (limits : after.executionLimits = middle.executionLimits)
    (others : ∀ name, name ≠ row.executionId →
      after.executions.find? name = middle.executions.find? name)
    (events : after.events = middle.events ++ new)
    (told : ∀ event ∈ new, event.executionId = row.executionId ∧ event.createdAt = now) :
    before.GuardsChildren after := by
  obtain ⟨early, collected, unleased⟩ := withholds.events
  refine ⟨early ++ new, by rw [events, collected, append_assoc], fun event member leased => ?_⟩
  rcases mem_append.mp member with here | there
  · exact absurd leased (unleased event here)
  · obtain ⟨named, timed⟩ := told event there
    rw [named, timed]
    refine guarded.congr limits fun binding parent _ stored running _ => ?_
    have different : binding.executionId ≠ row.executionId := by
      intro same
      rw [same, found, Option.some.injEq] at stored
      rw [← stored, queued] at running
      cases running
    rw [others _ different]
    exact stored

theorem Database.charged_leaves (database : Database) (executionId : Identifier) :
    (database.charged executionId).executionLimits = database.executionLimits ∧
      (database.charged executionId).executions = database.executions ∧
      (database.charged executionId).events = database.events := by
  unfold charged
  split <;> exact ⟨rfl, rfl, rfl⟩

/-! ### The two claims -/

section Claims

variable {environment : Environment} {frame : Frame} {now : Timestamp}

/-- The execution that a claim may lease without a look at its parent. -/
def Database.ClaimSpares (database : Database) (now : Timestamp) (target : Option Identifier) :
    Prop :=
  ∀ executionId ∈ target, ∀ row, database.executions.find? executionId = some row →
    row.state = .queued ∨ database.reapable now row = true →
      database.ChildGuarded now executionId

variable {after : Option ClaimCursor} {row : ExecutionRow}

variable {filter : ClaimFilter}

variable {database : Database}

theorem Database.claimable_orphan (scanning : filter.executionId = none)
    (claimable : database.claimable now filter after row = true) :
    database.parentOf row.executionId = none := by
  simp only [Database.claimable, claimTargeted, scanning, Bool.and_eq_true] at claimable
  exact Option.isNone_iff_eq_none.mp claimable.1.2.1.2

theorem Database.claimable_named {target : Identifier} (named : filter.executionId = some target)
    (claimable : database.claimable now filter after row = true) : row.executionId = target := by
  simp only [Database.claimable, claimTargeted, named, Bool.and_eq_true, decide_eq_true_eq] at claimable
  exact claimable.1.2

variable {owner : Identifier} {cursor : Option ClaimCursor} {floor : Timestamp}
  {options : StartOptions}

theorem claimable_guarded {middle : Database} (withholds : before.Withholds middle)
    (kept : ∀ executionId, (∀ row, before.executions.find? executionId = some row →
      before.reapable now row = false) →
        middle.executions.find? executionId = before.executions.find? executionId)
    (spares : before.ClaimSpares now filter.executionId)
    (found : middle.executions.find? row.executionId = some row)
    (claimable : middle.claimable now filter after row = true) :
    middle.ChildGuarded now row.executionId := by
  cases target : filter.executionId with
  | none =>
    intro binding bound
    rw [Database.claimable_orphan target claimable] at bound
    cases bound
  | some executionId =>
    have named := Database.claimable_named target claimable
    have reached : ∃ row, before.executions.find? executionId = some row ∧
        (row.state = .queued ∨ before.reapable now row = true) := by
      by_contra unreached
      push Not at unreached
      have same := kept executionId fun row stored =>
        Bool.eq_false_of_not_eq_true (unreached row stored).2
      rw [← named, found, named] at same
      exact (unreached row same.symm).1 (Database.claimable_queued claimable)
    obtain ⟨old, stored, open_⟩ := reached
    have guarded := spares executionId target old stored open_
    rw [named]
    refine guarded.congr withholds.limits fun binding parent _ present _ live => ?_
    rw [kept binding.executionId]
    · exact present
    · intro other again
      cases present.symm.trans again
      obtain ⟨lease, leased, unexpired⟩ := live
      have expired : parent.lease.any (fun columns => columns.expiresAt ≤ now) = false := by
        rw [Option.mem_def] at leased
        rw [leased]
        simpa using unexpired
      simp only [Database.reapable, expired, Bool.and_false, Bool.false_and]

theorem claimBody_guards {duration : Timestamp}
    (spares : frame.database.ClaimSpares now filter.executionId) :
    Ensures (claimBody owner duration filter cursor now) environment frame
      fun _ next => frame.database.GuardsChildren next.database := by
  unfold claimBody
  refine ensures_bind (ensures_ask ?_)
  refine ensures_bind (reapInTransaction_withholds.mono fun _ middle collected => ?_)
  obtain ⟨withholds, kept⟩ := collected
  refine ensures_bind (nextBudgetEligibleClaim_claimable
    (fun _ => ensures_pure (.of_withholds withholds)) fun row session found after claimable => ?_)
  have guarded := claimable_guarded withholds kept spares found claimable
  have queued := Database.claimable_queued claimable
  obtain ⟨limits, executions, events⟩ := middle.database.charged_leaves row.executionId
  refine then_check fun _ _ => then_lift fun _ _ => ?_
  refine then_check fun leaseId _ => then_lift fun expiresAt _ => ?_
  refine ensures_bind (chargeManagedClaim_charges fun _ session => ?_)
  refine ensures_bind (casExecution_ensures (ensures_bind (appendEvent_ensures ?_)))
  refine ensures_pure (.lease withholds found queued guarded limits ?_
    (congrArg (· ++ [_]) events) ?_)
  · intro name different
    refine Eq.trans (@Table.find?_put_other _ _ _ _ (middle.database.charged row.executionId).executions
      (row.leasedTo ⟨leaseId, owner, expiresAt⟩ now) _ different) ?_
    rw [executions]
  · intro event member
    rw [mem_singleton.mp member]
    exact ⟨rfl, rfl⟩

variable {executionId : Identifier}

/-- What `_assert_child_claim` tells of a child: its parent is live. -/
theorem assertChildClaim_guards {surroundings : Environment × Database} {session : Session} :
    Ensures (assertChildClaim executionId now) surroundings session
      fun _ _ => surroundings.2.ChildGuarded now executionId := by
  unfold assertChildClaim
  refine ensures_bind (ensures_probe_database ?_)
  have parentless : surroundings.2.parentOf executionId = none →
      surroundings.2.ChildGuarded now executionId := by
    intro none binding bound
    cases none.symm.trans bound
  cases stored : surroundings.2.executionLimits.find? executionId with
  | none => exact ensures_pure (parentless (by rw [Database.parentOf, stored]; rfl))
  | some limits =>
    have parent : surroundings.2.parentOf executionId = limits.parent := by
      rw [Database.parentOf, stored]
      rfl
    dsimp only
    cases bound : limits.parent with
    | none => exact ensures_pure (parentless (parent.trans bound))
    | some binding =>
      refine ensures_bind ((ensures_trivial _).mono fun _ _ _ => ?_)
      refine then_expect fun row found => ?_
      refine then_require fun live => ?_
      refine ensures_bind ((ensures_trivial _).mono fun _ _ _ => ?_)
      refine then_expect fun parentLimits entered => ?_
      refine (ensures_trivial _).mono fun _ _ _ other again => ?_
      rw [parent, bound, Option.some.injEq] at again
      subst again
      obtain ⟨known, confirmed⟩ := Option.filter_eq_some_iff.mp entered
      rw [Table.key_of_find? found] at known
      refine ⟨⟨row, found, live⟩, parentLimits, known, ?_⟩
      rw [of_decide_eq_true confirmed, live.2.1, live.2.2.1]

/-- The reservation of a producer's slots leaves the executions alone, their events and their
limits. -/
theorem lifecycleReserve_same {attempt fence : ℕ} {reservation : LifecycleReservation} :
    Ensures (lifecycleReserve executionId attempt fence reservation) environment frame
      fun _ next => next.database.executionLimits = frame.database.executionLimits ∧
        next.database.executions = frame.database.executions ∧
        next.database.events = frame.database.events := by
  unfold lifecycleReserve
  refine then_read (then_require fun _ => ?_)
  split
  · exact then_require fun _ => ensures_pure ⟨rfl, rfl, rfl⟩
  · refine ensures_ite (fun _ => ensures_pure ⟨rfl, rfl, rfl⟩) fun _ => ?_
    exact ensures_bind (ensures_modify (ensures_pure ⟨rfl, rfl, rfl⟩))

theorem startCandidate_guards (withholds : before.Withholds frame.database)
    (found : frame.database.executions.find? row.executionId = some row)
    (queued : row.state = .queued) (guarded : frame.database.ChildGuarded now row.executionId) :
    Ensures (startCandidate owner floor options row now) environment frame
      fun _ next => before.GuardsChildren next.database := by
  unfold startCandidate
  refine ensures_bind (ensures_ask (then_lift fun _ _ => ?_))
  refine then_lift fun _ _ => then_lift fun _ _ => ?_
  refine then_check fun leaseId drawn => ?_
  have reserved : Ensures (startCandidate.reserve options row now) environment
      ⟨frame.database, drawn⟩ fun _ next =>
        next.database.executionLimits = frame.database.executionLimits ∧
        next.database.executions = frame.database.executions ∧
        next.database.events = frame.database.events := by
    unfold startCandidate.reserve
    cases options.reservation with
    | none => exact ensures_pure ⟨rfl, rfl, rfl⟩
    | some reservation => exact then_check fun _ _ => lifecycleReserve_same
  refine ensures_bind (reserved.mono fun granted middle same => ?_)
  obtain ⟨sameLimits, sameExecutions, sameEvents⟩ := same
  refine ensures_ite (fun _ => ensures_pure ?_) fun _ => ?_
  · obtain ⟨new, events, unleased⟩ := withholds.events
    exact .of_withholds ⟨sameLimits.trans withholds.limits, new, sameEvents.trans events, unleased⟩
  obtain ⟨limits, executions, events⟩ := middle.database.charged_leaves row.executionId
  refine then_lift fun expiresAt _ => ?_
  refine ensures_bind (chargeManagedClaim_charges fun _ session => ?_)
  refine then_check fun _ _ => ?_
  refine ensures_bind (casExecution_ensures (ensures_bind (appendEvent_ensures ?_)))
  refine ensures_bind (appendEvent_ensures (ensures_pure ?_))
  refine .lease withholds found queued guarded (limits.trans sameLimits) ?_
    ((append_assoc _ _ _).trans (congrArg (· ++ ([_] ++ [_])) (events.trans sameEvents))) ?_
  · intro name different
    refine Eq.trans (@Table.find?_put_other _ _ _ _ (middle.database.charged row.executionId).executions
      (row.startedUnder ⟨leaseId, owner, expiresAt⟩ now) _ different) ?_
    rw [executions, sameExecutions]
  · intro event member
    simp only [cons_append, nil_append, mem_cons, not_mem_nil,
      or_false] at member
    rcases member with rfl | rfl <;> exact ⟨rfl, rfl⟩

theorem claimAndStartBody_guards
    :
    Ensures (claimAndStartBody owner floor filter cursor options now) environment frame
      fun _ next => frame.database.GuardsChildren next.database := by
  unfold claimAndStartBody
  refine ensures_bind (reapInTransaction_withholds.mono fun _ middle collected => ?_)
  obtain ⟨withholds, kept⟩ := collected
  have idle : frame.database.GuardsChildren middle.database := .of_withholds withholds
  refine ensures_bind (nextBudgetEligibleClaim_claimable (fun _ => ensures_pure idle)
    fun row session found after claimable => ?_)
  refine then_check fun _ clocked => then_read ?_
  refine ensures_ite (fun _ => ensures_pure idle) fun _ => ?_
  have targeted : Ensures (claimAndStartBody.assertTarget filter now row) environment
      ⟨middle.database, clocked⟩ fun _ next => next.database = middle.database ∧
        middle.database.ChildGuarded now row.executionId := by
    unfold claimAndStartBody.assertTarget
    cases target : filter.executionId with
    | some executionId =>
      refine ensures_ite (fun _ => ?_) fun unnamed => absurd rfl unnamed
      exact ensures_probe (assertChildClaim_guards.mono fun _ _ guarded => ⟨rfl, guarded⟩)
    | none =>
      refine ensures_ite (fun named => nomatch named) fun _ => ensures_pure ⟨rfl, ?_⟩
      intro binding bound
      rw [Database.claimable_orphan target claimable] at bound
      cases bound
  refine ensures_bind (targeted.mono fun _ next same => ?_)
  obtain ⟨same, guarded⟩ := same
  rw [← same] at withholds found guarded
  exact startCandidate_guards withholds found (Database.claimable_queued claimable) guarded

end Claims

/-! ### Runs of the kernel -/

/-- A `claim` names no child that is to be had, or only one whose parent is live at the time it
observes. -/
def Operation.Spares (operation : Operation) (environment : Environment) (state : KernelState) :
    Prop :=
  match operation with
  | .work (.claim request) => ∀ wall, environment.wallTime 0 = some wall →
      state.database.ClaimSpares (max state.watermark wall) request.executionId
  | _ => True

/-- A child that `claim` or `claim_and_start` leases has a live parent. -/
def Operation.GuardsChildren (operation : Operation) (environment : Environment)
    (state : KernelState) : Prop :=
  match operation with
  | .work (.claim _) | .work (.claimAndStart _ _ _) =>
    state.database.GuardsChildren (operation.apply environment state).database
  | _ => True

/-- What holds of every call of a run, in the surroundings and the state that it meets. -/
def Throughout (condition : Operation → Environment → KernelState → Prop) :
    List (Operation × Environment) → KernelState → Prop
  | [], _ => True
  | (operation, environment) :: rest, state =>
    condition operation environment state ∧
      Throughout condition rest (operation.apply environment state)

variable {condition : Operation → Environment → KernelState → Prop} {state : KernelState}

theorem Throughout.imply {other : Operation → Environment → KernelState → Prop}
    (imply : ∀ operation environment state, condition operation environment state →
      other operation environment state) {run : List (Operation × Environment)}
    (throughout : Throughout condition run state) : Throughout other run state := by
  induction run generalizing state with
  | nil => trivial
  | cons call rest hypothesis =>
    exact ⟨imply _ _ _ throughout.1, hypothesis throughout.2⟩

theorem Advances.guards {before after : KernelState}
    (advances : Advances (fun _ => Database.GuardsChildren) before after) :
    before.database.GuardsChildren after.database := by
  rcases advances.tables with same | ⟨_, -, -, guards⟩
  · rw [same]
    exact .of_withholds (.refl _)
  · exact guards

/-- One call: every child that it leases has a live parent, unless it is a `claim` that names a child
whose parent is not live. -/
theorem Operation.guardsChildren {operation : Operation}
    (spares : operation.Spares environment state) : operation.GuardsChildren environment state := by
  have untouched : state.database.GuardsChildren state.database := .of_withholds (.refl _)
  cases operation with
  | enrol | govern | deliver | keepBooks => trivial
  | work call =>
    cases call with
    | claim request =>
      dsimp only [GuardsChildren, apply, WorkCall.apply, ExecutionKernel.claim]
      split
      · exact untouched
      · refine (transaction_observes (fun _ => Database.GuardsChildren)
          fun wall observed session => ?_).guards
        exact @claimBody_guards _ ⟨state.database, session⟩ _ _ _ _ _ (spares wall observed)
    | claimAndStart request excluded options =>
      dsimp only [GuardsChildren, apply, WorkCall.apply, ExecutionKernel.claimAndStart]
      split
      · exact untouched
      · exact (transaction_observes (fun _ => Database.GuardsChildren) fun _ _ session =>
            @claimAndStartBody_guards _ ⟨state.database, session⟩ _ _ _ _ _ _).guards
    | _ => trivial

/-- In every run in which no `claim` names a child that is to be had and whose parent is not live,
every child that is leased, by `claim` or by `claim_and_start`, has a parent that runs the attempt the
child is bound to, under a lease that has not expired and with a confirmed handler entry. -/
theorem child_claims_guarded (storeId : Identifier) (run : List (Operation × Environment)) :
    Throughout Operation.Spares run (.initial storeId) →
      Throughout Operation.GuardsChildren run (.initial storeId) :=
  Throughout.imply fun _ _ _ spares => Operation.guardsChildren spares

def sampleClocked (wall : Timestamp) : Environment :=
  { sampleEnvironment wall with
    clockSample := fun _ => ⟨0, 0, some sampleName, .boot, none, by decide⟩ }

def sampleChildName : Identifier := ⟨"child", by decide⟩

def sampleEntry : BudgetEnvelope :=
  ⟨[⟨⟨"execution:job", by decide⟩, .execution, 1, 0⟩],
    ⟨0, 0, some sampleName, .boot, none, by decide⟩, some 0⟩

/-- The calls by which the running command of the example submits a child, at time zero. -/
def sampleBinding : List (Operation × Environment) :=
  [(.enrol (.submit sampleCommand), sampleClocked 0),
    (.work (.claim ⟨sampleName, none, none, none, none, none⟩), sampleClocked 0),
    (.work (.start (sampleLease 2 second_positive)), sampleClocked 0),
    (.work (.prepareExecutionBudget (sampleLease 3 third_positive) true), sampleClocked 0),
    (.work (.recordHandlerEntry (sampleLease 3 third_positive) sampleEntry false), sampleClocked 0),
    (.enrol (.submitChild
      { sampleCommand with executionId := sampleChildName, idempotencyKey := sampleChildName }
      (sampleLease 3 third_positive) { sampleEntry with constraints := [], startedAt := none }),
      sampleClocked 0)]

def sampleBound : KernelState := (KernelState.initial sampleName).after sampleBinding

def sampleChildClaim : ClaimRequest :=
  ⟨sampleName, none, none, none, some sampleChildName, none⟩

/-- The calls of the example claim no child but one whose parent is live. -/
theorem child_claims_sample :
    Throughout Operation.GuardsChildren
      (sampleBinding ++
        [(.work (.claimAndStart sampleChildClaim [] ⟨0, none, none⟩), sampleClocked 0)])
      (.initial sampleName) := by
  refine child_claims_guarded sampleName _
    ⟨trivial, fun _ _ _ named => ?_, trivial, trivial, trivial, trivial, trivial, trivial⟩
  cases named

theorem Throughout.split {first second : List (Operation × Environment)}
    (throughout : Throughout condition (first ++ second) state) :
    Throughout condition second (state.after first) := by
  induction first generalizing state with
  | nil => exact throughout
  | cons call rest hypothesis => exact hypothesis throughout.2

/-- At time ten the lease of the parent has expired: a `claim` collects the parent and leases the
child all the same. -/
theorem orphan_claimed : ¬ ∀ storeId run,
    Throughout Operation.GuardsChildren run (.initial storeId) := by
  intro guarded
  have last : sampleBound.database.GuardsChildren
      (claim sampleChildClaim (sampleClocked 10) sampleBound).2.database :=
    (Throughout.split (guarded sampleName
      (sampleBinding ++
        [(Operation.work (WorkCall.claim sampleChildClaim), sampleClocked 10)]))).1
  generalize reached : (claim sampleChildClaim (sampleClocked 10) sampleBound).2.database = after
    at last
  have leases : (after.events.any fun event =>
      event.eventType = .leased && event.executionId = sampleChildName) = true := by
    rw [← reached]
    decide +kernel
  have unleased : (sampleBound.database.events.all fun event =>
      event.executionId ≠ sampleChildName || event.eventType ≠ .leased) = true := by
    decide +kernel
  have bound : (after.parentOf sampleChildName).map (·.executionId) = some sampleName := by
    rw [← reached]
    decide +kernel
  have collected : (after.executions.find? sampleName).map (·.state) = some .dead := by
    rw [← reached]
    decide +kernel
  obtain ⟨new, events, told⟩ := last
  obtain ⟨event, member, leased⟩ := any_eq_true.mp leases
  rw [Bool.and_eq_true, decide_eq_true_eq, decide_eq_true_eq] at leased
  obtain ⟨binding, parent, named⟩ := Option.map_eq_some_iff.mp bound
  rw [events, mem_append] at member
  rcases member with old | added
  · have other := all_eq_true.mp unleased event old
    rw [Bool.or_eq_true, decide_eq_true_eq, decide_eq_true_eq] at other
    exact other.elim (fun differs => differs leased.2) fun differs => differs leased.1
  · obtain ⟨⟨row, stored, running, -⟩, -⟩ := told event added leased.1 binding
      (by rw [leased.2]; exact parent)
    rw [named] at stored
    rw [stored, Option.map_some, running] at collected
    cases collected

open Option Function

/-! ### The two walks -/

def Database.up (database : Database) (executionId : Identifier) : Option Identifier :=
  (database.parentOf executionId).map (·.executionId)

variable {database : Database} {executionId child parent node : Identifier}
  {nodes : List Identifier}

theorem budgetClock_ok {bound : ℕ} {seen : List Identifier}
    (climbs : Climbs database.up node nodes) (short : nodes.length ≤ bound)
    (unseen : ∀ name ∈ nodes, name ∉ seen)
    (settled : ∀ name ∈ nodes, ∀ sample ∈ database.gates.budgetSamples,
      sample.executionId ≠ name) :
    budgetClock database bound seen node = .ok () := by
  have none : ∀ name ∈ nodes,
      database.gates.budgetSamples.find? (fun sample => sample.executionId = name) = none :=
    fun name listed => List.find?_eq_none.mpr fun sample member => by
      rw [decide_eq_true_iff]
      exact settled name listed sample member
  clear settled
  induction climbs generalizing bound seen with
  | @top node root =>
    obtain ⟨rest, rfl⟩ := Nat.exists_eq_add_of_le' short
    rw [length_singleton, budgetClock, if_neg (unseen node mem_cons_self),
      none node mem_cons_self]
    dsimp only
    rw [map_eq_none_iff.mp root]
  | @step node parent nodes found climbs hypothesis =>
    obtain ⟨rest, rfl⟩ := Nat.exists_eq_add_of_le' (Nat.le_of_add_left_le short)
    obtain ⟨binding, stored, named⟩ := map_eq_some_iff.mp found
    rw [budgetClock, if_neg (unseen node mem_cons_self), none node mem_cons_self]
    dsimp only
    rw [stored]
    dsimp only
    rw [named]
    refine hypothesis ?_ (fun name member => ?_) fun name member =>
      none name (mem_cons_of_mem _ member)
    · rw [length_cons] at short
      omega
    · rw [mem_cons, not_or]
      refine ⟨?_, unseen name (mem_cons_of_mem _ member)⟩
      rintro rfl
      exact (nodup_cons.mp (Climbs.step found climbs).nodup).1 member

theorem acyclicAncestry_absent {bound : ℕ} (climbs : Climbs database.up node nodes)
    (acyclic : acyclicAncestry database child bound node = .ok ()) : child ∉ nodes := by
  induction climbs generalizing bound with
  | @top node root =>
    cases bound with
    | zero => cases acyclic
    | succ bound =>
      rw [acyclicAncestry] at acyclic
      split at acyclic
      · cases acyclic
      · rename_i different
        rw [mem_singleton]
        exact fun same => different same.symm
  | @step node parent nodes found climbs hypothesis =>
    obtain ⟨binding, stored, named⟩ := map_eq_some_iff.mp found
    cases bound with
    | zero => cases acyclic
    | succ bound =>
      rw [acyclicAncestry] at acyclic
      split at acyclic
      · cases acyclic
      · rename_i different
        rw [stored] at acyclic
        dsimp only at acyclic
        rw [named] at acyclic
        rw [mem_cons, not_or]
        exact ⟨fun same => different same.symm, hypothesis acyclic⟩

/-! ### The parents that a step leaves -/

theorem Database.SameParents.up (same : before.SameParents after) : after.up = before.up :=
  funext fun name => congrArg _ (same name)

theorem Enrol.up {may : Identifier → Identifier → Prop} (enrol : Enrol may now before after) :
    after.up = before.up ∨ ∃ child parent, may child parent ∧ before.up child = none ∧
      acyclicAncestry before child 64 parent = .ok () ∧
      after.up = Function.update before.up child (some parent) := by
  cases enrol with
  | register | attest => exact .inl rfl
  | submit _ rewrites => exact .inl rewrites.sameParents.up
  | refuse rewrites => exact .inl rewrites.sameParents.up
  | support supports => exact .inl supports.parents.up
  | @bind child binding _ _ named kin _ _ bound others =>
    have moved : after.up = Function.update before.up child (some binding.executionId) := by
      funext name
      unfold Database.up
      by_cases same : name = child
      · rw [same, bound, update_self]
        rfl
      · rw [others name same, update_of_ne same]
    cases old : before.parentOf child with
    | none =>
      exact .inr ⟨child, binding.executionId, named, congrArg _ old, kin.1, moved⟩
    | some former =>
      refine Or.inl (moved.trans (update_eq_self_iff.mpr ?_))
      rw [Database.up, old, map_some, kin.2 former old]

/-- There is room for a child, and for what it is the ancestor of, under the ancestry of a parent. -/
def Database.Fits (database : Database) (child parent : Identifier) : Prop :=
  database.up child = none → ∀ below nodes above, Climbs database.up below nodes →
    child ∈ nodes → Climbs database.up parent above → nodes.length + above.length ≤ 64

def Database.Short (database : Database) : Prop :=
  ∀ executionId, ∃ nodes, Climbs database.up executionId nodes ∧ nodes.length ≤ 64

theorem Database.Short.of_up (short : before.Short) (same : after.up = before.up) :
    after.Short := by
  unfold Short
  rw [same]
  exact short

theorem Database.Short.bind (short : before.Short) (free : before.up child = none)
    (fits : before.Fits child parent) (acyclic : acyclicAncestry before child 64 parent = .ok ())
    (moved : after.up = Function.update before.up child (some parent)) : after.Short := by
  intro executionId
  obtain ⟨above, further, -⟩ := short parent
  obtain ⟨nodes, climbs, bounded⟩ := short executionId
  have absent := acyclicAncestry_absent further acyclic
  rw [moved]
  by_cases member : child ∈ nodes
  · refine ⟨nodes ++ above, climbs.extended free member further absent, ?_⟩
    rw [length_append]
    exact fits free executionId nodes above climbs member further
  · exact ⟨nodes, climbs.kept member, bounded⟩

theorem Works.short (works : Works now before after) (short : before.Short) : after.Short := by
  induction works with
  | refl => exact short
  | tail _ work hypothesis =>
    cases work with
    | @move executionId need _ _ rewrites =>
      refine hypothesis.of_up (Database.SameParents.up fun name => ?_)
      exact (rewrites.sameParents name).trans ((Database.spend_same _ executionId need).2 name)
    | support supports => exact hypothesis.of_up supports.parents.up

theorem EnrolCall.Binds.unique {call : EnrolCall} {other ancestor : Identifier}
    (binds : call.Binds child parent) (again : call.Binds other ancestor) :
    other = child ∧ ancestor = parent := by
  cases call with
  | submitManaged _ _ _ presented =>
    cases presented with
    | none => cases binds
    | some => exact ⟨again.1.trans binds.1.symm, again.2.trans binds.2.symm⟩
  | submitChild | adoptChild => exact ⟨again.1.trans binds.1.symm, again.2.trans binds.2.symm⟩
  | _ => cases binds

theorem Enrols.short {call : EnrolCall} (enrols : Enrols call.Binds now before after)
    (fits : ∀ child parent, call.Binds child parent → before.Fits child parent)
    (short : before.Short) : after.Short := by
  -- Once the child is bound nothing is left that the call may bind.
  have kept : after.up = before.up ∨ after.Short ∧ ∃ child parent, call.Binds child parent ∧
      after.up child = some parent := by
    induction enrols with
    | refl => exact .inl rfl
    | tail _ enrol hypothesis =>
      rcases enrol.up with same | ⟨child, parent, binds, free, acyclic, moved⟩
      · rcases hypothesis with unmoved | ⟨bounded, child, parent, binds, bound⟩
        · exact .inl (same.trans unmoved)
        · exact .inr ⟨bounded.of_up same, child, parent, binds, by rw [same, bound]⟩
      · rcases hypothesis with unmoved | ⟨-, other, ancestor, earlier, bound⟩
        · have room := fits child parent binds
          unfold Database.Fits at room
          rw [← unmoved] at room
          exact .inr ⟨(short.of_up unmoved).bind free room acyclic moved, child, parent, binds,
            by rw [moved, update_self]⟩
        · rw [(binds.unique earlier).1, free] at bound
          cases bound
  exact kept.elim short.of_up And.left

/-! ### Runs of the kernel -/

/-- A call that binds a child finds room for it under its parent. -/
def Operation.Fits (operation : Operation) (_ : Environment) (state : KernelState) : Prop :=
  match operation with
  | .enrol call => ∀ child parent, call.Binds child parent → state.database.Fits child parent
  | _ => True

theorem Operation.short {operation : Operation}
    (owned : state.database.EffectsOwned) (fits : operation.Fits environment state)
    (short : state.database.Short) : (operation.apply environment state).database.Short := by
  cases operation with
  | enrol call =>
    rcases (call.enrols owned).tables with same | ⟨now, -, -, enrols⟩
    · exact short.of_up (congrArg _ same)
    · exact enrols.short fits short
  | work call =>
    rcases call.works.tables with same | ⟨now, -, -, works⟩
    · exact short.of_up (congrArg _ same)
    · exact works.short short
  | govern call =>
    rcases call.governs.tables with same | ⟨now, -, -, governs⟩
    · exact short.of_up (congrArg _ same)
    · cases governs with
      | rule _ parents => exact short.of_up parents.up
      | support supports => exact short.of_up supports.parents.up
  | deliver columns time => exact short.of_up (Database.supports_delivering _ columns).parents.up
  | keepBooks gates envelope time =>
    exact short.of_up (Database.supports_booking _ gates envelope).parents.up

/-- In a run whose bindings leave room every ancestry is acyclic and has 64 nodes at most, so the
walk of a claim succeeds on it. -/
theorem ancestry_walked (storeId : Identifier) (run : List (Operation × Environment))
    (fits : Throughout Operation.Fits run (.initial storeId)) (executionId : Identifier) :
    let database := ((KernelState.initial storeId).after run).database
    ∃ nodes, Climbs database.up executionId nodes ∧ nodes.Nodup ∧ nodes.length ≤ 64 ∧
      ((∀ name ∈ nodes, ∀ sample ∈ database.gates.budgetSamples, sample.executionId ≠ name) →
        budgetClock database 64 [] executionId = .ok ()) := by
  have short : ∀ state : KernelState, kernel.Reachable state → Throughout Operation.Fits run state →
      state.database.Short → (state.after run).database.Short := by
    clear fits
    induction run with
    | nil => exact fun _ _ _ short => short
    | cons call rest hypothesis =>
      intro state reachable fits short
      exact hypothesis _ (reachable.next ⟨call.1, call.2, rfl⟩) fits.2
        (call.1.short (kernel_rooted reachable).effectsOwned fits.1 short)
  have start : (KernelState.initial storeId).database.Short := fun name =>
    ⟨[name], .top rfl, Nat.one_le_ofNat⟩
  obtain ⟨nodes, climbs, bounded⟩ := short _ (reachable_after storeId []) fits start executionId
  exact ⟨nodes, climbs, climbs.nodup, bounded,
    budgetClock_ok climbs bounded fun _ _ => not_mem_nil⟩

theorem Database.parentless (none : (database.executionLimits.rows.all (·.parent.isNone)) = true)
    (name : Identifier) : database.up name = .none := by
  cases stored : database.executionLimits.find? name with
  | none => rw [up, parentOf, stored]; rfl
  | some limits =>
    have orphan := all_eq_true.mp none limits (Table.mem_of_find? stored)
    rw [up, parentOf, stored, bind_some, isNone_iff_eq_none.mp orphan, map_none]

/-- The submission of the example finds room for the child. -/
theorem ancestry_walked_sample :
    ∃ nodes, Climbs sampleBound.database.up sampleChildName nodes ∧ nodes.Nodup ∧
      nodes.length ≤ 64 ∧ ((∀ name ∈ nodes, ∀ sample ∈ sampleBound.database.gates.budgetSamples,
        sample.executionId ≠ name) →
          budgetClock sampleBound.database 64 [] sampleChildName = .ok ()) := by
  refine ancestry_walked sampleName sampleBinding
    ⟨fun _ _ binds => False.elim binds, trivial, trivial, trivial, trivial, ?_, trivial⟩
    sampleChildName
  intro child parent _ _ below nodes above climbs _ further
  have parentless := @Database.parentless
    ((KernelState.initial sampleName).after (sampleBinding.take 5)).database (by decide +kernel)
  rw [climbs.unique (.top (parentless below)), further.unique (.top (parentless parent))]
  exact Nat.le_of_ble_eq_true rfl

/-! ### A child too deep -/

/-- The names of a line of descendants of the example. -/
def levelName : ℕ → Identifier
  | 0 => sampleName
  | level + 1 =>
    { text := String.ofList ['c', Char.ofNat (48 + level)]
      filled := by
        unfold blank
        rw [String.toList_ofList]
        rfl }

def levelLease (level revision : ℕ) (positive : 1 ≤ revision) : ExecutionLease :=
  { sampleLease revision positive with executionId := levelName level }

def levelEntry (level : ℕ) : BudgetEnvelope :=
  { sampleEntry with
    constraints := [⟨⟨executionOrigin (levelName level), by
      unfold blank executionOrigin
      rw [String.toList_append]
      rfl⟩, .execution, 1, 0⟩] }

def levelCalls (level : ℕ) (accept : ExecutionCommand → EnrolCall) : List Operation :=
  [.enrol (accept { sampleCommand with
      executionId := levelName level
      idempotencyKey := levelName level
      retryPolicy :=
        { sampleCommand.retryPolicy with maxAttempts := 2, attemptsPositive := second_positive } }),
    .work (.claim ⟨sampleName, none, none, none, some (levelName level), none⟩),
    .work (.start (levelLease level 2 second_positive))]

/-- Eight executions, each the child of the one before. The last adopts the next eight; the first
waits for a retry, so that it can be adopted. -/
def segmentCalls (first : ℕ) : List Operation :=
  let lease level := levelLease level 3 third_positive
  let unentered := { sampleEntry with constraints := [], startedAt := none }
  levelCalls first .submit ++ [.work (.prepareExecutionBudget (lease first) true),
      .work (.recordHandlerEntry (lease first) (levelEntry first) false)] ++
    (List.range 7).flatMap (fun below => levelCalls (first + below + 1)
      (.submitChild · (lease (first + below)) unentered)) ++
    [.enrol (.adoptChild (levelName (first + 8)) (lease (first + 7)) unentered),
      .work (.complete (lease first)
        { sampleFailure with
          executionId := levelName first
          error := some ⟨sampleName, "failed", true, []⟩
          accepted := by rfl } {})]

/-- The calls that make a line of 64 descendants, from the last to the first. -/
def deepCalls : List (Operation × Environment) :=
  ((levelCalls 64 .submit).take 1 ++ (List.range 8).flatMap fun round =>
    segmentCalls (56 - 8 * round)).map (·, sampleClocked 0)

/-- The last descendant is accepted, and the walk of a claim refuses it. -/
theorem deep_child_refused : ¬ ∀ storeId run executionId,
    let database := ((KernelState.initial storeId).after run).database
    (database.parentOf executionId).isSome → database.gates.budgetSamples = [] →
      budgetClock database 64 [] executionId = .ok () := by
  intro walked
  have refused := walked sampleName deepCalls (levelName 64)
  generalize reached : ((KernelState.initial sampleName).after deepCalls).database = database
    at refused
  generalize named : levelName 64 = name at refused
  have deep : ((database.parentOf name).isSome && database.gates.budgetSamples.isEmpty &&
      (budgetClock database 64 [] name).toOption.isNone) = true := by
    rw [← reached, ← named]
    decide +kernel
  rw [Bool.and_eq_true, Bool.and_eq_true, List.isEmpty_iff] at deep
  rw [refused deep.1.1 deep.1.2] at deep
  exact absurd deep.2 Bool.false_ne_true

end DispatcherSdk.ExecutionKernel
