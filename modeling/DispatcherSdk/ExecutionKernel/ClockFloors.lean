/-
This file proves that merging clock evidence is a join. A checkpoint stands for a floor: at
a reading of the clock that cannot be set back, so much wall time has been reached at least.
Merging takes the earlier of two checkpoints forward to the later one, whichever of the two
comes first, and keeps the higher floor.

The conversion of the exact floor to a floating-point number may only round upwards.
-/

import DispatcherSdk.ExecutionKernel.Base
import DispatcherSdk.Library.Transition
import Mathlib.Algebra.Order.Ring.NNRat
import Mathlib.Tactic.Linarith

namespace DispatcherSdk.ExecutionKernel

open Library Relation

/-- What `float`, `fsum` and `nextafter` promise: rounding keeps the order, and the next number is
not below the exact value. -/
structure FloatArithmetic.Rounds (arithmetic : FloatArithmetic) : Prop where
  ordered : ∀ {small large low high : Timestamp}, small ≤ large →
    arithmetic.nearest small = some low → arithmetic.nearest large = some high → low ≤ high
  conservative : ∀ {exact rounded above : Timestamp}, arithmetic.nearest exact = some rounded →
    rounded < exact → arithmetic.nextAfter rounded = some above → exact ≤ above

namespace ClockCheckpoint

/-- The wall time that a checkpoint proves to have been reached at a reading. -/
def floorAt (checkpoint : ClockCheckpoint) (elapsed : ℚ) : ℚ :=
  checkpoint.wallAt + elapsed - checkpoint.elapsedAt

/-- The readings of two checkpoints may be compared. -/
def Comparable (checkpoint other : ClockCheckpoint) : Prop :=
  checkpoint.domainId ≠ none ∧ checkpoint.domainId = other.domainId ∧
    checkpoint.domainScope = other.domainScope

variable {checkpoint other sample : ClockCheckpoint}

theorem Comparable.symm (comparable : Comparable checkpoint other) : Comparable other checkpoint :=
  ⟨comparable.2.1 ▸ comparable.1, comparable.2.1.symm, comparable.2.2.symm⟩

theorem Comparable.trans (comparable : Comparable checkpoint other)
    (also : Comparable other sample) : Comparable checkpoint sample :=
  ⟨comparable.1, comparable.2.1.trans also.2.1, comparable.2.2.trans also.2.2⟩

theorem continuous_iff : continuous checkpoint sample ↔
    Comparable checkpoint sample ∧ checkpoint.elapsedAt ≤ sample.elapsedAt := by
  simp only [continuous, Comparable, and_assoc]

theorem projected_eq (ordered : checkpoint.elapsedAt ≤ sample.elapsedAt) :
    (projected checkpoint sample : ℚ) = checkpoint.floorAt sample.elapsedAt := by
  unfold projected floorAt
  rw [NNRat.coe_add, NNRat.coe_sub ordered]
  linarith

theorem floorAt_shift (checkpoint : ClockCheckpoint) (elapsed reading : ℚ) :
    checkpoint.floorAt elapsed = checkpoint.floorAt reading + (elapsed - reading) := by
  unfold floorAt
  linarith

/-- The higher floor of two checkpoints at the later reading. -/
def joined (checkpoint other : ClockCheckpoint) : Timestamp :=
  if checkpoint.elapsedAt ≤ other.elapsedAt then max other.wallAt (projected checkpoint other)
  else max checkpoint.wallAt (projected other checkpoint)

theorem joined_eq (checkpoint other : ClockCheckpoint) :
    (joined checkpoint other : ℚ) =
      max (checkpoint.floorAt (max checkpoint.elapsedAt other.elapsedAt : Timestamp))
        (other.floorAt (max checkpoint.elapsedAt other.elapsedAt : Timestamp)) := by
  have here : ∀ checkpoint : ClockCheckpoint,
      checkpoint.floorAt checkpoint.elapsedAt = checkpoint.wallAt := fun checkpoint => by
    unfold floorAt
    linarith
  unfold joined
  split
  · rename_i ordered
    rw [NNRat.coe_max, projected_eq ordered, max_eq_right ordered, here, max_comm]
  · rename_i later
    have ordered := (not_le.mp later).le
    rw [NNRat.coe_max, projected_eq ordered, max_eq_left ordered, here]

theorem joined_comm (checkpoint other : ClockCheckpoint) :
    joined checkpoint other = joined other checkpoint := by
  rw [← NNRat.coe_inj, joined_eq, joined_eq, max_comm, max_comm checkpoint.elapsedAt]

end ClockCheckpoint

namespace BudgetEnvelope

open ClockCheckpoint

variable {arithmetic : FloatArithmetic} {envelope left right next merged : BudgetEnvelope}
  {checkpoint sample : ClockCheckpoint}

/-- `with_clock_floor`. -/
def withClockFloor (arithmetic : FloatArithmetic) (envelope : BudgetEnvelope)
    (checkpoint : ClockCheckpoint) : Except KernelError BudgetEnvelope :=
  if envelope.checkpoint.elapsedAt ≤ checkpoint.elapsedAt then
    envelope.recheckpoint arithmetic checkpoint
  else { envelope with checkpoint }.recheckpoint arithmetic envelope.checkpoint

/-- The earliest hard deadline, if any constraint is imposed. -/
def hardDeadline? (envelope : BudgetEnvelope) : Option Timestamp :=
  (envelope.constraints.map DeadlineConstraint.deadlineAt).min?

/-- `view(sample=…)`, as far as it tells of the hard deadline. -/
def viewHard (arithmetic : FloatArithmetic) (envelope : BudgetEnvelope)
    (sample : ClockCheckpoint) : RemainingWork :=
  match envelope.checkpoint.effectiveTime arithmetic sample with
  | none => .unknown
  | some now =>
    match envelope.hardDeadline? with
    | none => .unbounded
    | some deadline => .seconds (deadline - now)

/-! ### One step -/

/-- The floor as a floating-point number that is not below it. -/
def raised (arithmetic : FloatArithmetic) (exact : Timestamp) : Option Timestamp :=
  match arithmetic.nearest exact with
  | none => none
  | some rounded => if rounded < exact then arithmetic.nextAfter rounded else some rounded

theorem le_raised (rounds : arithmetic.Rounds) {exact wallAt : Timestamp}
    (reached : raised arithmetic exact = some wallAt) : exact ≤ wallAt := by
  unfold raised at reached
  split at reached
  · cases reached
  · rename_i rounded converted
    split at reached
    · exact rounds.conservative converted ‹_› reached
    · cases reached
      exact not_lt.mp ‹_›

/-- What a step does: it moves the checkpoint, and nothing else. -/
structure Advances (arithmetic : FloatArithmetic) (envelope : BudgetEnvelope)
    (checkpoint : ClockCheckpoint) (next : BudgetEnvelope) : Prop where
  constraints : next.constraints = envelope.constraints
  startedAt : next.startedAt = envelope.startedAt
  comparable : Comparable envelope.checkpoint checkpoint
  kept : Comparable envelope.checkpoint next.checkpoint
  elapsedAt : next.checkpoint.elapsedAt = max envelope.checkpoint.elapsedAt checkpoint.elapsedAt
  wallAt : raised arithmetic (joined envelope.checkpoint checkpoint) = some next.checkpoint.wallAt

theorem recheckpoint_advances (accepted : envelope.recheckpoint arithmetic sample = .ok next) :
    continuous envelope.checkpoint sample ∧ envelope.Advances arithmetic sample next := by
  unfold recheckpoint at accepted
  cases effective : envelope.checkpoint.effectiveTime arithmetic sample with
  | none =>
    rw [effective] at accepted
    cases accepted
  | some now =>
    have continuing : continuous envelope.checkpoint sample := by
      unfold effectiveTime at effective
      by_contra broken
      rw [if_neg broken] at effective
      cases effective
    obtain ⟨comparable, ordered⟩ := continuous_iff.mp continuing
    have advances : ∀ wallAt, raised arithmetic (joined envelope.checkpoint sample) = some wallAt →
        envelope.Advances arithmetic sample
          { envelope with checkpoint := { sample with wallAt } } :=
      fun wallAt reached => ⟨rfl, rfl, comparable, comparable, (max_eq_right ordered).symm, reached⟩
    unfold raised joined at advances
    rw [if_pos ordered] at advances
    rw [effective] at accepted
    dsimp only at accepted
    refine ⟨continuing, ?_⟩
    split at accepted
    · cases accepted
    · rename_i rounded converted
      rw [converted] at advances
      dsimp only at advances
      split at accepted <;> rename_i compared
      · rw [if_pos compared] at advances
        split at accepted <;> cases accepted
        exact advances _ ‹_›
      · rw [if_neg compared] at advances
        cases accepted
        exact advances _ rfl

theorem withClockFloor_advances
    (accepted : envelope.withClockFloor arithmetic checkpoint = .ok next) :
    envelope.Advances arithmetic checkpoint next := by
  unfold withClockFloor at accepted
  split at accepted
  · exact (recheckpoint_advances accepted).2
  · obtain ⟨constraints, startedAt, comparable, kept, elapsedAt, wallAt⟩ :=
      (recheckpoint_advances accepted).2
    exact ⟨constraints, startedAt, comparable.symm, ⟨comparable.symm.1,
      comparable.symm.2.1.trans kept.2.1, comparable.symm.2.2.trans kept.2.2⟩,
      elapsedAt.trans (max_comm _ _), joined_comm checkpoint _ ▸ wallAt⟩

/-- No step lowers the floor of either checkpoint. -/
theorem Advances.raises (rounds : arithmetic.Rounds)
    (advances : envelope.Advances arithmetic checkpoint next) (elapsed : ℚ) :
    max (envelope.checkpoint.floorAt elapsed) (checkpoint.floorAt elapsed) ≤
      next.checkpoint.floorAt elapsed := by
  have above := NNRat.coe_le_coe.mpr (le_raised rounds advances.wallAt)
  rw [joined_eq, ← advances.elapsedAt] at above
  obtain ⟨own, other⟩ := max_le_iff.mp above
  refine max_le ?_ ?_ <;> unfold floorAt at * <;> linarith

/-! ### Numbers that are not rounded -/

/-- On exact numbers a merge is never refused and its floor is the higher one. -/
theorem withClockFloor_exact (exact : ∀ value, arithmetic.nearest value = some value)
    (comparable : Comparable envelope.checkpoint checkpoint) :
    ∃ merged, envelope.withClockFloor arithmetic checkpoint = .ok merged ∧
      ∀ elapsed, merged.checkpoint.floorAt elapsed =
        max (envelope.checkpoint.floorAt elapsed) (checkpoint.floorAt elapsed) := by
  have succeeds : ∀ {envelope : BudgetEnvelope} {sample},
      continuous envelope.checkpoint sample →
      ∃ merged, envelope.recheckpoint arithmetic sample = .ok merged := by
    intro envelope sample continuing
    unfold recheckpoint effectiveTime
    rw [if_pos continuing, exact]
    dsimp only [Option.map_some]
    rw [exact]
    dsimp only
    rw [if_neg (lt_irrefl _)]
    exact ⟨_, rfl⟩
  have accepted : ∃ merged, envelope.withClockFloor arithmetic checkpoint = .ok merged := by
    unfold withClockFloor
    split <;> refine succeeds (continuous_iff.mpr ?_)
    · exact ⟨comparable, ‹_›⟩
    · exact ⟨comparable.symm, (not_le.mp ‹_›).le⟩
  obtain ⟨merged, accepted⟩ := accepted
  have advances := withClockFloor_advances accepted
  have reached := advances.wallAt
  unfold raised at reached
  rw [exact] at reached
  dsimp only at reached
  rw [if_neg (lt_irrefl _), Option.some.injEq, ← NNRat.coe_inj, joined_eq,
    ← advances.elapsedAt] at reached
  refine ⟨merged, accepted, fun elapsed => ?_⟩
  rw [floorAt_shift _ elapsed merged.checkpoint.elapsedAt,
    floorAt_shift envelope.checkpoint elapsed merged.checkpoint.elapsedAt,
    floorAt_shift checkpoint elapsed merged.checkpoint.elapsedAt, max_add_add_right, reached]
  unfold floorAt
  linarith

/-! ### Runs of merges and later samples -/

/-- A merge of other evidence, or a checkpoint at a later sample. -/
def Moves (arithmetic : FloatArithmetic) (before after : BudgetEnvelope) : Prop :=
  ∃ checkpoint, before.withClockFloor arithmetic checkpoint = .ok after ∨
    before.recheckpoint arithmetic checkpoint = .ok after

/-- What a run keeps and what it may raise. -/
structure Grows (before after : BudgetEnvelope) : Prop where
  constraints : after.constraints = before.constraints
  floor : ∀ elapsed, before.checkpoint.floorAt elapsed ≤ after.checkpoint.floorAt elapsed

variable {before after : BudgetEnvelope}

theorem Moves.grows (rounds : arithmetic.Rounds) (moves : Moves arithmetic before after) :
    before.Grows after := by
  obtain ⟨checkpoint, accepted⟩ := moves
  have advances : before.Advances arithmetic checkpoint after :=
    accepted.elim withClockFloor_advances fun moved => (recheckpoint_advances moved).2
  exact ⟨advances.constraints, fun elapsed => (max_le_iff.mp (advances.raises rounds elapsed)).1⟩

theorem grows_of_run (rounds : arithmetic.Rounds)
    (run : ReflTransGen (Moves arithmetic) before after) : before.Grows after := by
  induction run with
  | refl => exact ⟨rfl, fun _ => le_rfl⟩
  | tail _ step hypothesis =>
    have grows := step.grows rounds
    exact ⟨grows.constraints.trans hypothesis.constraints,
      fun elapsed => (hypothesis.floor elapsed).trans (grows.floor elapsed)⟩

/-- A sample is not earlier than another, or the floor knows of the wall time that the other had
shown. -/
def Follows (arithmetic : FloatArithmetic) (after : BudgetEnvelope)
    (sample later : ClockCheckpoint) : Prop :=
  sample.elapsedAt ≤ later.elapsedAt ∧ (sample.wallAt ≤ later.wallAt ∨
    arithmetic.nearest sample.wallAt = some sample.wallAt ∧
      (sample.wallAt : ℚ) ≤ after.checkpoint.floorAt later.elapsedAt)

theorem effectiveTime_eq_some {now : Timestamp}
    (effective : checkpoint.effectiveTime arithmetic sample = some now) :
    ∃ rounded, continuous checkpoint sample ∧
      arithmetic.nearest (projected checkpoint sample) = some rounded ∧
      now = max sample.wallAt rounded := by
  unfold effectiveTime at effective
  split at effective
  · obtain ⟨rounded, converted, rfl⟩ := Option.map_eq_some_iff.mp effective
    exact ⟨rounded, ‹_›, converted, rfl⟩
  · cases effective

variable {later : ClockCheckpoint}

theorem Grows.time (rounds : arithmetic.Rounds) (grows : before.Grows after)
    (follows : Follows arithmetic after sample later) {now reached : Timestamp}
    (first : before.checkpoint.effectiveTime arithmetic sample = some now)
    (second : after.checkpoint.effectiveTime arithmetic later = some reached) : now ≤ reached := by
  obtain ⟨low, comparable, below, rfl⟩ := effectiveTime_eq_some first
  obtain ⟨high, also, above, rfl⟩ := effectiveTime_eq_some second
  obtain ⟨ordered, wall⟩ := follows
  have beyond := projected_eq (continuous_iff.mp also).2
  have passed : (projected before.checkpoint sample : ℚ) ≤ projected after.checkpoint later := by
    rw [projected_eq (continuous_iff.mp comparable).2, beyond]
    refine (grows.floor _).trans ?_
    have ordered : (sample.elapsedAt : ℚ) ≤ later.elapsedAt := NNRat.coe_le_coe.mpr ordered
    unfold floorAt
    linarith
  refine max_le ?_ (le_max_of_le_right
    (rounds.ordered (NNRat.coe_le_coe.mp passed) below above))
  rcases wall with shown | ⟨stable, known⟩
  · exact le_max_of_le_left shown
  · rw [← beyond] at known
    exact le_max_of_le_right (rounds.ordered (NNRat.coe_le_coe.mp known) stable above)

/-- Of two reports of the time that is left, the first does not tell of more. -/
def RemainingWork.NoMore : RemainingWork → RemainingWork → Prop
  | .seconds left, .seconds earlier => left ≤ earlier
  | .seconds _, .unbounded | .unbounded, .seconds _ => False
  | _, _ => True

theorem noMore_unknown (report : RemainingWork) : report.NoMore .unknown := by
  cases report <;> trivial

theorem Grows.views (rounds : arithmetic.Rounds) (grows : before.Grows after)
    (follows : Follows arithmetic after sample later) :
    (after.view arithmetic later).NoMore (before.view arithmetic sample) ∧
      (after.viewHard arithmetic later).NoMore (before.viewHard arithmetic sample) := by
  unfold view viewHard workDeadline? hardDeadline?
  rw [grows.constraints]
  cases first : before.checkpoint.effectiveTime arithmetic sample with
  | none => exact ⟨noMore_unknown _, noMore_unknown _⟩
  | some now =>
    cases second : after.checkpoint.effectiveTime arithmetic later with
    | none => exact ⟨trivial, trivial⟩
    | some reached =>
      have passed := grows.time rounds follows first second
      constructor <;> dsimp only <;> split
      · trivial
      · exact tsub_le_tsub_left passed _
      · trivial
      · exact tsub_le_tsub_left passed _

end BudgetEnvelope

/-- A reading of a clock that was started with the machine. -/
def bootReading (wallAt elapsedAt : Timestamp) : ClockCheckpoint :=
  { wallAt, elapsedAt, domainId := some ⟨"host", by decide⟩, domainScope := .boot
    unknownReason := none, scopeKnown := by decide }

end DispatcherSdk.ExecutionKernel
