/-
This file proves that no window of a steady run is a false stall.

What a row of a policy says about the evaluations since its baseline is an invariant of the row
and of the evaluations committed for it. An evaluation either starts past or extends the streak
by one; every other transaction leaves the windows of a row alone or gives it up.
-/

import DispatcherSdk.Library.Tally
import DispatcherSdk.Library.Transition
import DispatcherSdk.Observability.StallStore
import Mathlib.Algebra.Order.Ring.NNRat
import Mathlib.Tactic.GCongr
import Mathlib.Tactic.Ring

namespace DispatcherSdk.Observability

open ExecutionKernel Library Library.Checked Table

/-! ### Evaluations -/

structure Evaluation where
  key : PolicyKey
  sampler : Sampler
  reading : Reading

namespace Evaluation

/-- The moments that an evaluation knows of: that of its sample and that of the newest sample of
a collector. -/
def stamps (evaluation : Evaluation) : List Stamp :=
  evaluation.reading.now :: evaluation.reading.report.capturedAt.toList

def counter (evaluation : Evaluation) (name : Identifier) : ℕ :=
  (metricValue evaluation.reading.status evaluation.reading.report name.text).getD 0

/-- The evaluation has observed the attempt it is about: it runs, reports without a gap and no wait,
and every metric is installed. -/
def Observes (policy : StallPolicy) (evaluation : Evaluation) : Prop :=
  ∃ metrics, observed evaluation.key policy evaluation.reading.status evaluation.reading.report =
    .ok metrics

end Evaluation

/-- An evaluation continues what an earlier one has seen. -/
structure Continues (compare : ℕ → ℕ → Prop) (arithmetic : FloatArithmetic)
    (policy : StallPolicy) (earlier later : Evaluation) : Prop where
  clock : earlier.reading.sample.continuous later.reading.sample
  forward : earlier.reading.sample.wallAt ≤ later.reading.sample.wallAt
  sampled : ¬ later.sampler.skipped arithmetic earlier.reading.sample later.reading.sample
  sources : later.reading.report.sourceIds = earlier.reading.report.sourceIds
  gaps : later.reading.report.collectionGaps = earlier.reading.report.collectionGaps
  progress : later.reading.status.progressRevision = earlier.reading.status.progressRevision
  metrics : ∀ name ∈ policy.metrics, compare (earlier.counter name) (later.counter name)

/-- The evaluations of one policy, in their order. -/
def entriesOf (key : PolicyKey) (log : List Evaluation) : List Evaluation :=
  log.filter fun evaluation => evaluation.key = key

/-- Successive evaluations between which neither metrics nor confirmed progress changed and the
collection was not interrupted. -/
structure QuietSpan (arithmetic : FloatArithmetic) (key : PolicyKey) (policy : StallPolicy)
    (log : List Evaluation) (start finish : Stamp) (span : List Evaluation) : Prop where
  successive : span <:+: entriesOf key log
  observes : ∀ evaluation ∈ span, evaluation.Observes policy
  unchanged : span.IsChain (Continues (· = ·) arithmetic policy)
  starts : ∃ first ∈ span.head?, start ∈ first.stamps
  finishes : ∃ last ∈ span.getLast?, finish ∈ last.stamps

/-! ### The system -/

/-- The journal, the rows that ticks have read, the evaluations committed, and the notifications
taken and retried. -/
structure SupervisorState where
  store : ObservationStore
  reads : List PolicyRow
  log : List Evaluation
  deliveries : List Identifier
  retries : List Identifier

/-- Within the window of the row, up to the moment that the reading vouches for, the wall clock has
not gained on the monotonic clock. -/
def Steady (arithmetic : FloatArithmetic) (row : PolicyRow) (reading : Reading) : Prop :=
  ∀ baseline ∈ row.baselineAt,
    (∀ next ∈ arithmetic.add baseline.wallAt row.policy.sampleInterval,
      baseline.wallAt + row.policy.sampleInterval ≤ next) ∧
    (reading.observedEnd baseline).wallAt + baseline.elapsedAt ≤
      baseline.wallAt + (reading.observedEnd baseline).elapsedAt

/-- The transactions of any number of supervisors on one journal, with any answers of the Kernel. An
evaluation is of a row that a tick has read as active. -/
inductive SupervisorStep (arithmetic : FloatArithmetic) (allowed : PolicyRow → Reading → Prop)
    (answered : EpisodeRow → Prop) : SupervisorState → SupervisorState → Prop
  | watch {state} (subscription previous authority maxPolicies now) {replayed store}
      (accepted : watch subscription previous authority maxPolicies now state.store =
        .ok (replayed, store)) :
      SupervisorStep arithmetic allowed answered state { state with store }
  | select {state} (row status) :
      SupervisorStep arithmetic allowed answered state
        { state with store := selectPolicy row status state.store }
  | read {state} (row) (stored : row ∈ state.store.policies) (active : row.state = .active) :
      SupervisorStep arithmetic allowed answered state { state with reads := row :: state.reads }
  | evaluate {state} (row sampler reading drawn) (readBefore : row ∈ state.reads)
      (permitted : allowed row reading) {store}
      (committed : evaluate arithmetic sampler row reading drawn state.store = some store) :
      SupervisorStep arithmetic allowed answered state
        { state with store, log := state.log ++ [⟨row.key, sampler, reading⟩] }
  | clear {state} (row) :
      SupervisorStep arithmetic allowed answered state
        { state with store := clearEpisode row state.store }
  | confirm {state} (row) (stored : row ∈ state.store.episodes) (registered : answered row) :
      SupervisorStep arithmetic allowed answered state
        { state with store := confirmEpisode row state.store }
  | refuse {state} (row status error now) :
      SupervisorStep arithmetic allowed answered state
        { state with store := refuseEpisode row status error now state.store }
  | expire {state} (now) :
      SupervisorStep arithmetic allowed answered state
        { state with store := expireDeliveries now state.store }
  | claim {state} (notificationId lease now) {store}
      (claimed : claimDelivery notificationId lease now state.store = some store) :
      SupervisorStep arithmetic allowed answered state
        { state with store, deliveries := notificationId :: state.deliveries }
  | settle {state} (notificationId leaseId error now nextAttemptAt) :
      SupervisorStep arithmetic allowed answered state
        { state with
          store := settleDelivery notificationId leaseId error now nextAttemptAt state.store }
  | retry {state} (notificationId expectedRevision now) {store}
      (accepted : retryDead notificationId expectedRevision now state.store = .ok store) :
      SupervisorStep arithmetic allowed answered state
        { state with store, retries := notificationId :: state.retries }

def SupervisorState.empty : SupervisorState := ⟨.empty, [], [], [], []⟩

/-- Supervisors whose evaluations meet a condition, on an empty journal. -/
def supervisors (arithmetic : FloatArithmetic) (allowed : PolicyRow → Reading → Prop) :
    TransitionSystem SupervisorState where
  initial state := state = .empty
  step := SupervisorStep arithmetic allowed fun _ => True

/-- Every stalled window is as long as the interval of its policy, and every episode as all the
windows it takes, within a quiet span. -/
def NoFalseStall (arithmetic : FloatArithmetic) (state : SupervisorState) : Prop :=
  (∀ window ∈ state.store.windows, window.state = .stalled →
    ∃ row ∈ state.store.policies, row.key = window.key ∧
      ∃ start span, QuietSpan arithmetic row.key row.policy state.log start window.endedAt span ∧
        start.elapsedAt ≤ window.startedAt.elapsedAt ∧
        window.startedAt.elapsedAt + row.policy.sampleInterval ≤ window.endedAt.elapsedAt) ∧
  ∀ episode ∈ state.store.episodes, ∃ row ∈ state.store.policies, row.key = episode.key ∧
    ∃ start finish span, QuietSpan arithmetic row.key row.policy state.log start finish span ∧
      start.elapsedAt + row.policy.consecutiveWindows * row.policy.sampleInterval ≤ finish.elapsedAt

open List Option Bool

/-! ### What a reading that counts has seen -/

section Readings

variable {arithmetic : FloatArithmetic} {sampler : Sampler} {row : PolicyRow}
  {reading : Reading} {metrics : Metrics} {key : PolicyKey} {policy : StallPolicy}
  {status : SupervisionStatus} {report : ActivityReport}

theorem observed_measured (shown : observed key policy status report = .ok metrics) :
    List.Forall₂ (fun (name : Identifier) metric => metric.1 = name.text ∧
      metricValue status report name.text = some metric.2) policy.metrics metrics := by
  simp only [observed, bind_eq_ok, check_eq_ok, exists_const] at shown
  obtain ⟨_, _, _, _, _, _, _, measured⟩ := shown
  refine (mapM_eq_ok.mp measured).imp ?_
  intro name metric found
  obtain ⟨value, installed, same⟩ := bind_eq_ok.mp found
  cases same
  exact ⟨rfl, present_eq_ok.mp installed⟩

theorem lookup_measured {names : List Identifier}
    (measured : List.Forall₂ (fun (name : Identifier) metric => metric.1 = name.text ∧
      metricValue status report name.text = some metric.2) names metrics) :
    ∀ name ∈ names, metrics.lookup name.text =
      some ((metricValue status report name.text).getD 0) := by
  induction measured with
  | nil => nofun
  | @cons first metric names metrics here _ hypothesis =>
    intro name member
    obtain ⟨label, value⟩ := metric
    obtain ⟨rfl, found⟩ := here
    by_cases same : name.text = first.text
    · rw [same, lookup_cons_self, found]
      rfl
    · have differs : (name.text == first.text) = false := beq_eq_false_iff_ne.mpr same
      rw [lookup_cons, differs]
      refine hypothesis name ((mem_cons.mp member).resolve_left ?_)
      rintro rfl
      exact same rfl

theorem observed_lookup (shown : observed key policy status report = .ok metrics) :
    ∀ name ∈ policy.metrics, metrics.lookup name.text =
      some ((metricValue status report name.text).getD 0) :=
  lookup_measured (observed_measured shown)

/-- A reading that counts is observed, continues what was seen before, and has no counter that
has fallen. -/
theorem judge_measured (counts : judge arithmetic sampler row reading = .measured metrics) :
    observed row.key row.policy reading.status reading.report = .ok metrics ∧
      ∀ previous ∈ row.continuity, breach arithmetic sampler previous reading = none ∧
        regressed previous.metrics metrics = false := by
  unfold judge at counts
  cases shown : observed row.key row.policy reading.status reading.report with
  | error doubt =>
    rw [shown] at counts
    dsimp only at counts
    split at counts <;> simp_all
  | ok found =>
    rw [shown] at counts
    cases seen : row.continuity with
    | none =>
      rw [seen] at counts
      dsimp only at counts
      split at counts <;> simp_all
    | some previous =>
      rw [seen] at counts
      dsimp only at counts
      cases fallen : regressed previous.metrics found with
      | true =>
        rw [fallen, if_pos rfl] at counts
        cases counts
      | false =>
        rw [fallen, if_neg Bool.false_ne_true] at counts
        split at counts
        · cases counts
        · rename_i unbroken
          cases counts
          refine ⟨rfl, ?_⟩
          rintro _ ⟨⟩
          exact ⟨unbroken, fallen⟩

theorem breach_eq_none {previous : Continuity}
    (unbroken : breach arithmetic sampler previous reading = none) :
    previous.clock.continuous reading.sample ∧
      previous.clock.wallAt ≤ reading.sample.wallAt ∧
      ¬ sampler.skipped arithmetic previous.clock reading.sample ∧
      reading.report.sourceIds = previous.sources ∧
      reading.report.collectionGaps = previous.gapCount := by
  unfold breach at unbroken
  split at unbroken
  · cases unbroken
  rename_i clock
  split at unbroken
  · cases unbroken
  rename_i sampled
  split at unbroken
  · cases unbroken
  rename_i sources
  split at unbroken
  · cases unbroken
  rename_i gaps
  push Not at clock sources gaps
  refine ⟨?_, clock.2, sampled, sources.symm, gaps.symm⟩
  by_contra broken
  refine clock.1 ?_
  rw [ClockCheckpoint.effectiveTime, if_neg broken]

theorem regressed_eq_false {previous : Metrics} (risen : regressed previous metrics = false)
    {name : String} {before after : ℕ} (was : previous.lookup name = some before)
    (found : metrics.lookup name = some after) : before ≤ after := by
  have member : (name, after) ∈ metrics := by
    obtain ⟨early, late, split, -⟩ := lookup_eq_some_iff.mp found
    rw [split]
    exact mem_append_right _ mem_cons_self
  have here := any_eq_false.mp risen (name, after) member
  rw [was] at here
  simpa using here

end Readings

/-! ### Streaks -/

/-- Evaluations from a baseline on, each continuing the one before. The row knows the last of them
and the metrics of the first. -/
structure Streak (arithmetic : FloatArithmetic) (row : PolicyRow) (previous : Continuity)
    (first : Evaluation) (rest : List Evaluation) : Prop where
  observes : ∀ evaluation ∈ first :: rest, evaluation.Observes row.policy
  rising : (first :: rest).IsChain (Continues (· ≤ ·) arithmetic row.policy)
  latest : ∃ last ∈ (first :: rest).getLast?, last.reading.sample = previous.clock ∧
      last.reading.report.sourceIds = previous.sources ∧
      last.reading.report.collectionGaps = previous.gapCount ∧
      last.reading.status.progressRevision = row.progressRevision ∧
      ∀ name ∈ row.policy.metrics, previous.metrics.lookup name.text = some (last.counter name)
  baseline : ∀ name ∈ row.policy.metrics,
    previous.baselineMetrics.lookup name.text = some (first.counter name)

/-- The open window of a row rests on a streak of evaluations; `start` is a moment of the first of
them, from which the windows in a row are counted. -/
def Tracked (arithmetic : FloatArithmetic) (entries : List Evaluation) (row : PolicyRow) : Prop :=
  ∀ baseline ∈ row.baselineAt, ∃ previous ∈ row.continuity, ∃ before first rest start,
    entries = before ++ first :: rest ∧ Streak arithmetic row previous first rest ∧
      start ∈ first.stamps ∧
      start.elapsedAt + row.consecutive * row.policy.sampleInterval ≤ baseline.elapsedAt ∧
      row.nextSampleAt = arithmetic.add baseline.wallAt row.policy.sampleInterval

/-- What a row says about the evaluations of its policy. -/
structure RowSound (arithmetic : FloatArithmetic) (entries : List Evaluation) (row : PolicyRow) :
    Prop where
  idle : row.baselineAt = none → row.continuity = none ∧ row.consecutive = 0
  open_ : row.baselineAt ≠ none → row.continuity ≠ none
  tracked : Tracked arithmetic entries row

section Streaks

variable {arithmetic : FloatArithmetic} {sampler : Sampler} {row : PolicyRow}
  {reading : Reading} {metrics : Metrics} {entries : List Evaluation} {previous : Continuity}
  {first : Evaluation} {rest : List Evaluation}

/-- The evaluation that a reading belongs to. -/
def evaluationOf (row : PolicyRow) (sampler : Sampler) (reading : Reading) : Evaluation :=
  ⟨row.key, sampler, reading⟩

theorem Streak.continues (streak : Streak arithmetic row previous first rest)
    (counts : judge arithmetic sampler row reading = .measured metrics)
    (seen : row.continuity = some previous)
    (same : reading.status.progressRevision = row.progressRevision) :
    ∀ last ∈ (first :: rest).getLast?,
      Continues (· ≤ ·) arithmetic row.policy last (evaluationOf row sampler reading) := by
  obtain ⟨shown, continued⟩ := judge_measured counts
  obtain ⟨unbroken, risen⟩ := continued previous seen
  obtain ⟨clock, forward, sampled, sources, gaps⟩ := breach_eq_none unbroken
  obtain ⟨last, ending, sampleSame, sourcesSame, gapsSame, progressSame, counters⟩ := streak.latest
  intro other otherEnding
  cases ending.symm.trans otherEnding
  refine ⟨?_, ?_, ?_, ?_, ?_, ?_, ?_⟩
  · rw [sampleSame]
    exact clock
  · rw [sampleSame]
    exact forward
  · rw [sampleSame]
    exact sampled
  · exact sources.trans sourcesSame.symm
  · exact gaps.trans gapsSame.symm
  · exact same.trans progressSame.symm
  · intro name member
    exact regressed_eq_false risen (counters name member) (observed_lookup shown name member)

variable {baselineMetrics : Metrics}

theorem Streak.single (counts : judge arithmetic sampler row reading = .measured metrics)
    (baseline : Stamp) (consecutive : ℕ) (same : baselineMetrics = metrics) :
    Streak arithmetic
      (row.continued arithmetic reading baseline metrics baselineMetrics consecutive)
      ⟨reading.sample, metrics, baselineMetrics, reading.report.sourceIds,
        reading.report.collectionGaps⟩
      (evaluationOf row sampler reading) [] := by
  subst same
  obtain ⟨shown, -⟩ := judge_measured counts
  refine ⟨?_, isChain_singleton _, ?_, observed_lookup shown⟩
  · intro evaluation member
    rw [mem_singleton.mp member]
    exact ⟨_, shown⟩
  · exact ⟨_, rfl, rfl, rfl, rfl, rfl, observed_lookup shown⟩

theorem Streak.extend (streak : Streak arithmetic row previous first rest)
    (counts : judge arithmetic sampler row reading = .measured metrics)
    (seen : row.continuity = some previous)
    (same : reading.status.progressRevision = row.progressRevision)
    (baseline : Stamp) (consecutive : ℕ) (kept : ∀ name ∈ row.policy.metrics,
      baselineMetrics.lookup name.text = some (first.counter name)) :
    Streak arithmetic
      (row.continued arithmetic reading baseline metrics baselineMetrics consecutive)
      ⟨reading.sample, metrics, baselineMetrics, reading.report.sourceIds,
        reading.report.collectionGaps⟩
      first (rest ++ [evaluationOf row sampler reading]) := by
  obtain ⟨shown, -⟩ := judge_measured counts
  refine ⟨?_, ?_, ?_, kept⟩
  · intro evaluation member
    rw [← cons_append] at member
    rcases mem_append.mp member with before | ending
    · exact streak.observes evaluation before
    · rw [mem_singleton.mp ending]
      exact ⟨_, shown⟩
  · rw [← cons_append]
    exact Streak.isChain_extend streak.rising (streak.continues counts seen same)
  · refine ⟨evaluationOf row sampler reading, ?_, rfl, rfl, rfl, rfl, observed_lookup shown⟩
    rw [← cons_append]
    exact List.getLast?_concat

theorem Streak.unchanged {last : Evaluation}
    (rising : (first :: (rest ++ [last])).IsChain (Continues (· ≤ ·) arithmetic row.policy))
    (same : ∀ name ∈ row.policy.metrics, last.counter name = first.counter name) :
    (first :: (rest ++ [last])).IsChain (Continues (· = ·) arithmetic row.policy) := by
  have constant : ∀ name ∈ row.policy.metrics, ∀ evaluation ∈ first :: (rest ++ [last]),
      evaluation.counter name = first.counter name := by
    intro name member
    refine Library.Streak.constant_of_ends ?_ (same name member)
    exact rising.imp fun early late step => step.metrics name member
  refine rising.imp_of_mem_imp ?_
  intro early late earlyMember lateMember step
  exact ⟨step.clock, step.forward, step.sampled, step.sources, step.gaps, step.progress,
    fun name member => (constant name member early earlyMember).trans
      (constant name member late lateMember).symm⟩

end Streaks

/-! ### One evaluation -/

section Assessing

variable {arithmetic : FloatArithmetic} {sampler : Sampler} {row : PolicyRow}
  {reading : Reading} {metrics : Metrics} {entries log : List Evaluation} {previous : Continuity}
  {baseline : Stamp}

theorem assess_cases (arithmetic : FloatArithmetic) (sampler : Sampler) (row : PolicyRow)
    (reading : Reading) :
    (∃ doubt, assess arithmetic sampler row reading = assessDoubt arithmetic row reading doubt) ∨
    ∃ metrics, judge arithmetic sampler row reading = .measured metrics ∧
      (assess arithmetic sampler row reading = assessProgress arithmetic row reading metrics ∨
      (reading.status.progressRevision = row.progressRevision ∧
        (((row.baselineAt = none ∨ row.continuity = none) ∧
          assess arithmetic sampler row reading =
            ⟨none, row.continued arithmetic reading reading.now metrics metrics row.consecutive,
              none, false⟩) ∨
        ∃ baseline previous, row.baselineAt = some baseline ∧ row.continuity = some previous ∧
          (((∃ next ∈ row.nextSampleAt, next ≤ (reading.observedEnd baseline).wallAt) ∧
            assess arithmetic sampler row reading =
              assessComplete arithmetic row reading baseline previous.baselineMetrics metrics) ∨
          assess arithmetic sampler row reading =
            ⟨none, row.continued arithmetic reading baseline metrics previous.baselineMetrics
              row.consecutive, none, false⟩)))) := by
  unfold assess
  cases counts : judge arithmetic sampler row reading with
  | doubtful doubt => exact .inl ⟨doubt, rfl⟩
  | measured metrics =>
    refine Or.inr ⟨metrics, rfl, ?_⟩
    by_cases same : reading.status.progressRevision = row.progressRevision
    · refine Or.inr ⟨same, ?_⟩
      dsimp only
      rw [if_neg (not_not.mpr same)]
      cases begun : row.baselineAt with
      | none => exact .inl ⟨Or.inl rfl, rfl⟩
      | some baseline =>
        cases seen : row.continuity with
        | none => exact .inl ⟨Or.inr rfl, rfl⟩
        | some previous =>
          refine Or.inr ⟨baseline, previous, rfl, rfl, ?_⟩
          by_cases past : ∃ next ∈ row.nextSampleAt, next ≤ (reading.observedEnd baseline).wallAt
          · exact .inl ⟨past, if_pos past⟩
          · exact .inr (if_neg past)
    · exact .inl (if_pos same)

theorem Steady.complete (sampler : Sampler) (steady : Steady arithmetic row reading)
    (begun : row.baselineAt = some baseline)
    (planned : row.nextSampleAt = arithmetic.add baseline.wallAt row.policy.sampleInterval)
    (past : ∃ next ∈ row.nextSampleAt, next ≤ (reading.observedEnd baseline).wallAt) :
    baseline.elapsedAt + row.policy.sampleInterval ≤ (reading.observedEnd baseline).elapsedAt ∧
      reading.observedEnd baseline ∈ (evaluationOf row sampler reading).stamps := by
  obtain ⟨next, stored, reached⟩ := past
  rw [planned] at stored
  obtain ⟨unrounded, agrees⟩ := steady baseline begun
  have passed : baseline.wallAt + row.policy.sampleInterval ≤
      (reading.observedEnd baseline).wallAt := (unrounded next stored).trans reached
  have long : baseline.elapsedAt + row.policy.sampleInterval ≤
      (reading.observedEnd baseline).elapsedAt := by
    refine le_of_add_le_add_left (?_ : baseline.wallAt + _ ≤ baseline.wallAt + _)
    calc baseline.wallAt + (baseline.elapsedAt + row.policy.sampleInterval)
        = baseline.wallAt + row.policy.sampleInterval + baseline.elapsedAt := by ring
      _ ≤ (reading.observedEnd baseline).wallAt + baseline.elapsedAt := by gcongr
      _ ≤ baseline.wallAt + (reading.observedEnd baseline).elapsedAt := agrees
  refine ⟨long, ?_⟩
  unfold Reading.observedEnd at long ⊢
  unfold Evaluation.stamps evaluationOf
  cases captured : reading.report.capturedAt with
  | none =>
    rw [captured] at long
    exact absurd long (not_le.mpr (lt_add_of_pos_right _ row.policy.intervalPositive))
  | some stamp =>
    dsimp only [toList_some]
    unfold Stamp.earlier
    split
    · exact mem_cons_self
    · exact mem_cons_of_mem _ mem_cons_self

theorem RowSound.stalled (sound : RowSound arithmetic entries row)
    (steady : Steady arithmetic row reading)
    (counts : judge arithmetic sampler row reading = .measured metrics)
    (same : reading.status.progressRevision = row.progressRevision)
    (begun : row.baselineAt = some baseline) (seen : row.continuity = some previous)
    (past : ∃ next ∈ row.nextSampleAt, next ≤ (reading.observedEnd baseline).wallAt)
    (still : stagnant row.policy previous.baselineMetrics metrics)
    (logged : entriesOf row.key log = entries ++ [evaluationOf row sampler reading]) :
    ∃ start span,
      QuietSpan arithmetic row.key row.policy log start (reading.observedEnd baseline) span ∧
        start.elapsedAt + row.consecutive * row.policy.sampleInterval ≤ baseline.elapsedAt ∧
        baseline.elapsedAt + row.policy.sampleInterval ≤
          (reading.observedEnd baseline).elapsedAt := by
  obtain ⟨stored, seenStored, before, first, rest, start, split, streak, starts, counted, planned⟩ :=
    sound.tracked baseline begun
  cases seen.symm.trans seenStored
  obtain ⟨shown, -⟩ := judge_measured counts
  obtain ⟨long, stamped⟩ := Steady.complete sampler steady begun planned past
  have extended := streak.extend counts seen same baseline 0 streak.baseline
  refine ⟨start, first :: (rest ++ [evaluationOf row sampler reading]), ?_, counted, long⟩
  refine ⟨⟨before, [], ?_⟩, extended.observes, ?_, ⟨first, rfl, starts⟩, ?_⟩
  · rw [logged, split]
    simp
  · refine Streak.unchanged extended.rising fun name member => ?_
    have ends := observed_lookup shown name member
    rw [still name member, streak.baseline name member] at ends
    exact (Option.some.inj ends).symm
  · refine ⟨evaluationOf row sampler reading, ?_, stamped⟩
    rw [← cons_append]
    exact List.getLast?_concat

theorem RowSound.restart (counts : judge arithmetic sampler row reading = .measured metrics)
    {start : Stamp} (stamped : start ∈ (evaluationOf row sampler reading).stamps)
    (consecutive : ℕ) (none : consecutive = 0) :
    RowSound arithmetic (entries ++ [evaluationOf row sampler reading])
      (row.continued arithmetic reading start metrics metrics consecutive) := by
  subst none
  refine ⟨nofun, fun _ => nofun, ?_⟩
  rintro _ ⟨⟩
  refine ⟨_, rfl, entries, evaluationOf row sampler reading, [], start, rfl,
    Streak.single counts start 0 rfl, stamped, ?_, rfl⟩
  simp [PolicyRow.continued]

theorem RowSound.assess (sampler : Sampler) (sound : RowSound arithmetic entries row)
    (steady : Steady arithmetic row reading) :
    RowSound arithmetic (entries ++ [evaluationOf row sampler reading])
      (assess arithmetic sampler row reading).row := by
  have sampled : reading.now ∈ (evaluationOf row sampler reading).stamps := mem_cons_self
  rcases assess_cases arithmetic sampler row reading with ⟨doubt, concluded⟩ |
    ⟨metrics, counts, concluded | ⟨same, ⟨free, concluded⟩ |
      ⟨baseline, previous, begun, seen, ⟨past, concluded⟩ | concluded⟩⟩⟩ <;> rw [concluded]
  · exact ⟨fun _ => ⟨rfl, rfl⟩, fun started => absurd rfl started, by rintro _ ⟨⟩⟩
  · exact RowSound.restart counts sampled 0 rfl
  · have idle : row.baselineAt = none :=
      free.elim id fun missing => by_contra fun started => sound.open_ started missing
    exact RowSound.restart counts sampled _ (sound.idle idle).2
  all_goals
    obtain ⟨stored, seenStored, before, first, rest, start, split, streak, starts, counted,
      planned⟩ := sound.tracked baseline begun
    cases seen.symm.trans seenStored
  · obtain ⟨long, stamped⟩ := Steady.complete sampler steady begun planned past
    unfold assessComplete
    dsimp only
    by_cases still : stagnant row.policy previous.baselineMetrics metrics
    · rw [if_pos still]
      refine ⟨nofun, fun _ => nofun, ?_⟩
      rintro _ ⟨⟩
      refine ⟨_, rfl, before, first, rest ++ [evaluationOf row sampler reading], start, ?_,
        streak.extend counts seen same _ _ ?_, starts, ?_, rfl⟩
      · rw [split, append_assoc, cons_append]
      · intro name member
        rw [still name member]
        exact streak.baseline name member
      · show start.elapsedAt + ((row.consecutive + 1 : ℕ) : ℚ≥0) * row.policy.sampleInterval ≤ _
        rw [Nat.cast_add, Nat.cast_one, add_mul, one_mul, ← add_assoc]
        exact (add_le_add_left counted _).trans long
    · rw [if_neg still]
      exact RowSound.restart counts stamped 0 rfl
  · refine ⟨nofun, fun _ => nofun, ?_⟩
    rintro _ ⟨⟩
    refine ⟨_, rfl, before, first, rest ++ [evaluationOf row sampler reading], start, ?_,
      streak.extend counts seen same _ _ streak.baseline, starts, counted, rfl⟩
    rw [split, append_assoc, cons_append]

end Assessing

/-! ### What the transactions leave of the windows -/

/-- `state in ("registering_policy", "pending_execution")`. -/
def PolicyState.waiting : PolicyState → Bool
  | registeringPolicy | pendingExecution => true
  | active | superseded | closed => false

/-- A row as a later transaction may have left it: whoever changes it raises its revision. -/
structure After (row later : PolicyRow) : Prop where
  key : later.key = row.key
  policy : later.policy = row.policy
  waits : later.state.waiting = true → row.state.waiting = true
  changed : later = row ∨ row.revision < later.revision

theorem After.refl (row : PolicyRow) : After row row := ⟨rfl, rfl, id, Or.inl rfl⟩

theorem After.trans {first second third : PolicyRow} (before : After first second)
    (after : After second third) : After first third := by
  refine ⟨after.key.trans before.key, after.policy.trans before.policy,
    before.waits ∘ after.waits, ?_⟩
  rcases after.changed with rfl | later
  · exact before.changed
  · rcases before.changed with rfl | earlier
    · exact .inr later
    · exact .inr (earlier.trans later)

/-- A row with the window that an earlier row had. Only a row that waits to be selected moves to
another key. -/
structure SameWindow (row later : PolicyRow) : Prop where
  key : later.key = row.key ∨ row.state.waiting = true
  policy : later.policy = row.policy
  waits : later.state.waiting = true → row.state.waiting = true
  baselineAt : later.baselineAt = row.baselineAt
  nextSampleAt : later.nextSampleAt = row.nextSampleAt
  continuity : later.continuity = row.continuity
  progressRevision : later.progressRevision = row.progressRevision
  consecutive : later.consecutive = row.consecutive

theorem SameWindow.refl (row : PolicyRow) : SameWindow row row :=
  ⟨Or.inl rfl, rfl, id, rfl, rfl, rfl, rfl, rfl⟩

def PolicyRow.unopened (row : PolicyRow) : Prop :=
  row.baselineAt = none ∧ row.continuity = none ∧ row.consecutive = 0

/-- What every transaction but an evaluation does to the windows: nothing. -/
structure WindowsKept (before after : ObservationStore) : Prop where
  windows : after.windows = before.windows
  forward : ∀ row ∈ before.policies, row.state.waiting = false →
    ∃ later ∈ after.policies, After row later
  backward : ∀ later ∈ after.policies,
    later.unopened ∨ ∃ row ∈ before.policies, SameWindow row later
  episodes : ∀ later ∈ after.episodes, ∃ row ∈ before.episodes, row.key = later.key

namespace WindowsKept

theorem of_policies {before after : ObservationStore} (windows : after.windows = before.windows)
    (policies : after.policies = before.policies)
    (episodes : ∀ later ∈ after.episodes, ∃ row ∈ before.episodes, row.key = later.key) :
    WindowsKept before after := by
  refine ⟨windows, ?_, ?_, episodes⟩
  · intro row member _
    rw [policies]
    exact ⟨row, member, .refl row⟩
  · intro later member
    rw [policies] at member
    exact .inr ⟨later, member, .refl later⟩

theorem refl (store : ObservationStore) : WindowsKept store store :=
  of_policies rfl rfl fun row member => ⟨row, member, rfl⟩

end WindowsKept

theorem endEpisode_kept (episode : Option Identifier) (now : Timestamp) (how : EpisodeEnd)
    (store : ObservationStore) : WindowsKept store (endEpisode episode now how store) := by
  unfold endEpisode
  split
  · exact .refl store
  · rename_i row found
    obtain ⟨name, -, stored⟩ := bind_eq_some_iff.mp found
    split
    · refine .of_policies rfl rfl fun later member => ?_
      rcases mem_put.mp member with rfl | ⟨old, -⟩
      · exact ⟨row, mem_of_find? stored, rfl⟩
      · exact ⟨later, old, rfl⟩
    · exact .refl store

variable {now : Timestamp}

variable {store after : ObservationStore}

theorem watch_kept {subscription : Subscription} {previous : Option PolicyRow} {authority : SupervisionStatus} {maxPolicies : ℕ} {replayed : Bool}
    (accepted : watch subscription previous authority maxPolicies now store =
      .ok (replayed, after)) : WindowsKept store after := by
  unfold watch at accepted
  split at accepted
  · split at accepted <;> cases accepted
    exact .refl _
  split at accepted
  · cases accepted
  split at accepted
  · split at accepted <;> cases accepted
    exact .refl _
  rename_i missing
  split at accepted
  · cases accepted
  cases accepted
  refine ⟨rfl, fun row member chosen => ?_, fun later member => ?_, fun later member => ?_⟩
  · let rewritten : PolicyRow :=
      if row.key.executionId = subscription.identity.executionId ∧ row.state.watched then
        { row with state := .superseded, revision := row.revision + 1 }
      else row
    have kept : After row rewritten := by
      show After row (if _ then _ else _)
      split
      · exact ⟨rfl, rfl, nofun, Or.inr (Nat.lt_succ_self _)⟩
      · exact .refl row
    have stored : rewritten ∈
        (supersedeWatched subscription.identity.executionId now store).policies :=
      mem_rows.mpr (mem_map.mpr ⟨row, member, rfl⟩)
    refine ⟨rewritten, mem_put.mpr (.inr ⟨stored, ?_⟩), kept⟩
    rw [kept.key]
    exact find?_eq_none_iff.mp missing row member
  · rcases mem_put.mp member with rfl | ⟨old, -⟩
    · exact .inl ⟨rfl, rfl, rfl⟩
    · obtain ⟨row, stored, rfl⟩ := mem_map.mp (mem_rows.mp old)
      refine Or.inr ⟨row, stored, ?_⟩
      split
      · exact ⟨Or.inl rfl, rfl, nofun, rfl, rfl, rfl, rfl, rfl⟩
      · exact .refl row
  · obtain ⟨row, stored, rfl⟩ := mem_map.mp (mem_rows.mp member)
    refine ⟨row, stored, ?_⟩
    split <;> rfl

theorem selectPolicy_kept (row : PolicyRow) (status : SupervisionStatus)
    (store : ObservationStore) : WindowsKept store (selectPolicy row status store) := by
  unfold selectPolicy
  split
  · exact .refl store
  rename_i current found
  obtain ⟨stored, matched⟩ := filter_eq_some_iff.mp found
  simp only [decide_and, and_eq_true, decide_eq_true_eq] at matched
  have waits : current.state.waiting = true := by
    rcases matched.1 with state | state <;> rw [state] <;> rfl
  have replaced : ∀ later : PolicyRow, later.key = current.key → SameWindow current later →
      WindowsKept store { store with policies := store.policies.put later } := by
    intro later same window
    refine ⟨rfl, fun other member chosen => ⟨other, mem_put.mpr (.inr ⟨member, ?_⟩), .refl other⟩,
      fun other member => ?_, fun other member => ⟨other, member, rfl⟩⟩
    · intro clash
      have twin := eq_of_key_eq member (mem_of_find? stored) (clash.trans same)
      rw [twin, waits] at chosen
      cases chosen
    · rcases mem_put.mp member with rfl | ⟨old, -⟩
      · exact .inr ⟨current, mem_of_find? stored, window⟩
      · exact .inr ⟨other, old, .refl other⟩
  split
  · exact .refl store
  · exact replaced _ rfl ⟨Or.inl rfl, rfl, nofun, rfl, rfl, rfl, rfl, rfl⟩
  · exact replaced _ rfl ⟨Or.inl rfl, rfl, nofun, rfl, rfl, rfl, rfl, rfl⟩
  · dsimp only
    split
    · exact .refl store
    rename_i unused
    refine ⟨rfl, fun other member chosen => ?_, fun later member => ?_,
      fun other member => ⟨other, member, rfl⟩⟩
    · have differs : other.key ≠ current.key := by
        intro clash
        rw [eq_of_key_eq member (mem_of_find? stored) clash, waits] at chosen
        cases chosen
      have kept : other ∈ store.policies.keep fun row => row.key ≠ current.key :=
        mem_keep.mpr ⟨member, decide_eq_true differs⟩
      exact ⟨other, mem_put.mpr (.inr ⟨kept, find?_eq_none_iff.mp unused other kept⟩),
        .refl other⟩
    · rcases mem_put.mp member with rfl | ⟨old, -⟩
      · exact .inr ⟨current, mem_of_find? stored,
          ⟨Or.inr waits, rfl, nofun, rfl, rfl, rfl, rfl, rfl⟩⟩
      · exact .inr ⟨later, (mem_keep.mp old).1, .refl later⟩

theorem clearEpisode_kept (row : EpisodeRow) (store : ObservationStore) :
    WindowsKept store (clearEpisode row store) := by
  unfold clearEpisode
  split
  · rename_i current how found _
    split
    · refine ⟨rfl, fun policy member _ => ?_, fun later member => ?_, fun later member => ?_⟩
      · refine ⟨_, mem_rows.mpr (mem_map.mpr ⟨policy, member, rfl⟩), ?_⟩
        split
        · exact ⟨rfl, rfl, id, Or.inr (Nat.lt_succ_self _)⟩
        · exact .refl policy
      · obtain ⟨policy, stored, rfl⟩ := mem_map.mp (mem_rows.mp member)
        refine Or.inr ⟨policy, stored, ?_⟩
        split
        · exact ⟨Or.inl rfl, rfl, id, rfl, rfl, rfl, rfl, rfl⟩
        · exact .refl policy
      · rcases mem_put.mp member with rfl | ⟨old, -⟩
        · exact ⟨current, mem_of_find? found, rfl⟩
        · exact ⟨later, old, rfl⟩
    · exact .refl store
  · exact .refl store

theorem confirmEpisode_kept (row : EpisodeRow) (store : ObservationStore) :
    WindowsKept store (confirmEpisode row store) := by
  unfold confirmEpisode
  split
  · exact .refl store
  · rename_i current found
    split
    · refine .of_policies rfl rfl fun later member => ?_
      rcases mem_put.mp member with rfl | ⟨old, -⟩
      · exact ⟨current, mem_of_find? found, rfl⟩
      · exact ⟨later, old, rfl⟩
    · exact .refl store

theorem refuseEpisode_kept (row : EpisodeRow) (status : SupervisionStatus) (error : String)
    (now : Timestamp) (store : ObservationStore) :
    WindowsKept store (refuseEpisode row status error now store) := by
  unfold refuseEpisode
  split
  · exact endEpisode_kept _ _ _ _
  · exact .of_policies rfl rfl fun row member => ⟨row, member, rfl⟩

theorem expireDeliveries_kept (now : Timestamp) (store : ObservationStore) :
    WindowsKept store (expireDeliveries now store) :=
  .of_policies rfl rfl fun row member => ⟨row, member, rfl⟩

variable {notificationId : Identifier}

theorem claimDelivery_kept {lease : DeliveryLease}
    (claimed : claimDelivery notificationId lease now store = some after) :
    WindowsKept store after := by
  unfold claimDelivery at claimed
  dsimp only at claimed
  split at claimed
  · cases claimed
  split at claimed <;> cases claimed
  exact .of_policies rfl rfl fun row member => ⟨row, member, rfl⟩

theorem settleDelivery_kept (notificationId leaseId : Identifier) (error : Option String)
    (now nextAttemptAt : Timestamp) (store : ObservationStore) :
    WindowsKept store (settleDelivery notificationId leaseId error now nextAttemptAt store) := by
  unfold settleDelivery
  split
  · exact .refl store
  split
  · exact .of_policies rfl rfl fun row member => ⟨row, member, rfl⟩
  · exact .refl store

theorem retryDead_kept {expectedRevision : ℕ}
    (accepted : retryDead notificationId expectedRevision now store = .ok after) :
    WindowsKept store after := by
  simp only [retryDead, bind_eq_ok] at accepted
  obtain ⟨_, _, _, _, done⟩ := accepted
  cases done
  exact .of_policies rfl rfl fun row member => ⟨row, member, rfl⟩

/-! ### What the journal says -/

theorem entriesOf_append (key : PolicyKey) (log : List Evaluation) (evaluation : Evaluation) :
    entriesOf key (log ++ [evaluation]) =
      entriesOf key log ++ if evaluation.key = key then [evaluation] else [] := by
  unfold entriesOf
  rw [filter_append, filter_singleton]
  by_cases same : evaluation.key = key <;> simp [same]

theorem QuietSpan.grow {arithmetic : FloatArithmetic} {key : PolicyKey} {policy : StallPolicy}
    {log : List Evaluation} {start finish : Stamp} {span : List Evaluation}
    (quiet : QuietSpan arithmetic key policy log start finish span) (evaluation : Evaluation) :
    QuietSpan arithmetic key policy (log ++ [evaluation]) start finish span := by
  refine ⟨quiet.successive.trans ?_, quiet.observes, quiet.unchanged, quiet.starts, quiet.finishes⟩
  rw [entriesOf_append]
  exact (prefix_append _ _).isInfix

/-- A stalled window rests on a quiet span that is long enough. -/
def WindowHeld (arithmetic : FloatArithmetic) (log : List Evaluation) (window : WindowRow)
    (row : PolicyRow) : Prop :=
  row.key = window.key ∧
    ∃ start span, QuietSpan arithmetic row.key row.policy log start window.endedAt span ∧
      start.elapsedAt ≤ window.startedAt.elapsedAt ∧
      window.startedAt.elapsedAt + row.policy.sampleInterval ≤ window.endedAt.elapsedAt

/-- An episode of a policy rests on a quiet span that is long enough. -/
def EpisodeHeld (arithmetic : FloatArithmetic) (log : List Evaluation) (key : PolicyKey)
    (row : PolicyRow) : Prop :=
  row.key = key ∧
    ∃ start finish span, QuietSpan arithmetic row.key row.policy log start finish span ∧
      start.elapsedAt + row.policy.consecutiveWindows * row.policy.sampleInterval ≤ finish.elapsedAt

/-- The rows tell the truth about the evaluations, and what was recorded as a stall was one. -/
structure SupervisorState.Sound (arithmetic : FloatArithmetic) (state : SupervisorState) :
    Prop where
  rows : ∀ row ∈ state.store.policies, RowSound arithmetic (entriesOf row.key state.log) row ∧
      (row.state.waiting = true → row.unopened)
  reads : ∀ copy ∈ state.reads, copy.state.waiting = false ∧
    ∃ current ∈ state.store.policies, After copy current
  windows : ∀ window ∈ state.store.windows, window.state = .stalled →
    ∃ row ∈ state.store.policies, row.state.waiting = false ∧
      WindowHeld arithmetic state.log window row
  episodes : ∀ episode ∈ state.store.episodes, ∃ row ∈ state.store.policies,
    row.state.waiting = false ∧ EpisodeHeld arithmetic state.log episode.key row

section Soundness

variable {arithmetic : FloatArithmetic} {state next : SupervisorState} {row later : PolicyRow}
  {log : List Evaluation}

variable {window : WindowRow} {key : PolicyKey}

theorem WindowHeld.carry (held : WindowHeld arithmetic log window row)
    (kept : After row later) : WindowHeld arithmetic log window later := by
  unfold WindowHeld at held ⊢
  rw [kept.key, kept.policy]
  exact held

theorem EpisodeHeld.carry (held : EpisodeHeld arithmetic log key row)
    (kept : After row later) : EpisodeHeld arithmetic log key later := by
  unfold EpisodeHeld at held ⊢
  rw [kept.key, kept.policy]
  exact held

theorem WindowHeld.grow (held : WindowHeld arithmetic log window row)
    (evaluation : Evaluation) : WindowHeld arithmetic (log ++ [evaluation]) window row := by
  obtain ⟨same, start, span, quiet, long⟩ := held
  exact ⟨same, start, span, quiet.grow evaluation, long⟩

theorem EpisodeHeld.grow (held : EpisodeHeld arithmetic log key row)
    (evaluation : Evaluation) : EpisodeHeld arithmetic (log ++ [evaluation]) key row := by
  obtain ⟨same, start, finish, span, quiet, long⟩ := held
  exact ⟨same, start, finish, span, quiet.grow evaluation, long⟩

theorem After.chosen (kept : After row later) (chosen : row.state.waiting = false) :
    later.state.waiting = false := by
  cases waits : later.state.waiting with
  | false => rfl
  | true => exact absurd (kept.waits waits) (by rw [chosen]; exact false_ne_true)

theorem RowSound.of_unopened (unopened : row.unopened) (entries : List Evaluation) :
    RowSound arithmetic entries row := by
  obtain ⟨idle, unseen, none⟩ := unopened
  refine ⟨fun _ => ⟨unseen, none⟩, fun started => absurd idle started, ?_⟩
  intro baseline begun
  cases idle.symm.trans begun

theorem RowSound.carry {entries : List Evaluation} (sound : RowSound arithmetic entries row)
    (window : SameWindow row later) : RowSound arithmetic entries later := by
  refine ⟨?_, ?_, ?_⟩
  · rw [window.baselineAt, window.continuity, window.consecutive]
    exact sound.idle
  · rw [window.baselineAt, window.continuity]
    exact sound.open_
  · intro baseline begun
    rw [window.baselineAt] at begun
    obtain ⟨previous, seen, before, first, rest, start, split, streak, starts, counted, planned⟩ :=
      sound.tracked baseline begun
    refine ⟨previous, window.continuity.trans seen, before, first, rest, start, split, ?_, starts,
      ?_, ?_⟩
    · refine ⟨?_, ?_, ?_, ?_⟩
      · rw [window.policy]
        exact streak.observes
      · rw [window.policy]
        exact streak.rising
      · rw [window.policy, window.progressRevision]
        exact streak.latest
      · rw [window.policy]
        exact streak.baseline
    · rw [window.policy, window.consecutive]
      exact counted
    · rw [window.policy, window.nextSampleAt]
      exact planned

theorem SupervisorState.Sound.keep {deliveries retries : List Identifier}
    (sound : state.Sound arithmetic) (kept : WindowsKept state.store after) :
    SupervisorState.Sound arithmetic ⟨after, state.reads, state.log, deliveries, retries⟩ := by
  refine ⟨fun later member => ?_, fun copy member => ?_, fun window member stalled => ?_,
    fun later member => ?_⟩
  · rcases kept.backward later member with unopened | ⟨row, stored, window⟩
    · exact ⟨.of_unopened unopened _, fun _ => unopened⟩
    · obtain ⟨truth, idle⟩ := sound.rows row stored
      have unopened : row.state.waiting = true → later.unopened := by
        intro waits
        obtain ⟨baseline, continuity, consecutive⟩ := idle waits
        exact ⟨window.baselineAt.trans baseline, window.continuity.trans continuity,
          window.consecutive.trans consecutive⟩
      refine ⟨?_, fun waits => unopened (window.waits waits)⟩
      rcases window.key with same | waits
      · rw [same]
        exact truth.carry window
      · exact .of_unopened (unopened waits) _
  · obtain ⟨chosen, current, stored, advanced⟩ := sound.reads copy member
    obtain ⟨later, kept, further⟩ := kept.forward current stored (advanced.chosen chosen)
    exact ⟨chosen, later, kept, advanced.trans further⟩
  · rw [show SupervisorState.store ⟨after, _, _, _, _⟩ = after from rfl, kept.windows] at member
    obtain ⟨row, stored, chosen, held⟩ := sound.windows window member stalled
    obtain ⟨later, present, advanced⟩ := kept.forward row stored chosen
    exact ⟨later, present, advanced.chosen chosen, held.carry advanced⟩
  · obtain ⟨episode, before, same⟩ := kept.episodes later member
    obtain ⟨row, stored, chosen, held⟩ := sound.episodes episode before
    obtain ⟨current, present, advanced⟩ := kept.forward row stored chosen
    rw [← same]
    exact ⟨current, present, advanced.chosen chosen, held.carry advanced⟩

end Soundness

/-! ### What an evaluation commits -/

section Committing

variable {arithmetic : FloatArithmetic} {sampler : Sampler} {row : PolicyRow}
  {reading : Reading} {entries log : List Evaluation}

theorem assess_row (arithmetic : FloatArithmetic) (sampler : Sampler) (row : PolicyRow)
    (reading : Reading) :
    (assess arithmetic sampler row reading).row.key = row.key ∧
      (assess arithmetic sampler row reading).row.policy = row.policy ∧
      (assess arithmetic sampler row reading).row.revision = row.revision + 1 ∧
      ((assess arithmetic sampler row reading).row.state.waiting = true →
        row.state.waiting = true) := by
  rcases assess_cases arithmetic sampler row reading with ⟨doubt, concluded⟩ |
    ⟨metrics, counts, concluded | ⟨same, ⟨free, concluded⟩ |
      ⟨baseline, previous, begun, seen, ⟨past, concluded⟩ | concluded⟩⟩⟩ <;> rw [concluded]
  · refine ⟨rfl, rfl, rfl, ?_⟩
    show (if _ then _ else _ : PolicyState).waiting = true → _
    split <;> nofun
  · exact ⟨rfl, rfl, rfl, id⟩
  · exact ⟨rfl, rfl, rfl, id⟩
  · unfold assessComplete
    dsimp only
    split <;> exact ⟨rfl, rfl, rfl, id⟩
  · exact ⟨rfl, rfl, rfl, id⟩

theorem assess_stalled (sound : RowSound arithmetic entries row)
    (steady : Steady arithmetic row reading)
    (logged : entriesOf row.key log = entries ++ [evaluationOf row sampler reading]) :
    (∀ started ended details,
      (assess arithmetic sampler row reading).window = some (started, ended, .stalled, details) →
      ∃ start span, QuietSpan arithmetic row.key row.policy log start ended span ∧
        start.elapsedAt ≤ started.elapsedAt ∧
        started.elapsedAt + row.policy.sampleInterval ≤ ended.elapsedAt) ∧
    ((assess arithmetic sampler row reading).begins = true →
      ∃ start finish span, QuietSpan arithmetic row.key row.policy log start finish span ∧
        start.elapsedAt + row.policy.consecutiveWindows * row.policy.sampleInterval ≤
          finish.elapsedAt) := by
  rcases assess_cases arithmetic sampler row reading with ⟨doubt, concluded⟩ |
    ⟨metrics, counts, concluded | ⟨same, ⟨free, concluded⟩ |
      ⟨baseline, previous, begun, seen, ⟨past, concluded⟩ | concluded⟩⟩⟩ <;> rw [concluded]
  · refine ⟨fun started ended details closed => ?_, nofun⟩
    obtain ⟨_, _, found⟩ := map_eq_some_iff.mp closed
    simp only [Prod.mk.injEq] at found
    have state := found.2.2.1
    split at state <;> cases state
  · refine ⟨fun started ended details closed => ?_, nofun⟩
    obtain ⟨_, _, found⟩ := map_eq_some_iff.mp closed
    cases found
  · exact ⟨nofun, nofun⟩
  · by_cases still : stagnant row.policy previous.baselineMetrics metrics
    · obtain ⟨start, span, quiet, counted, long⟩ :=
        sound.stalled steady counts same begun seen past still logged
      unfold assessComplete
      dsimp only
      rw [if_pos still]
      refine ⟨?_, fun begins => ⟨start, _, span, quiet, ?_⟩⟩
      · rintro started ended details ⟨⟩
        exact ⟨start, span, quiet, le_trans (le_add_of_nonneg_right zero_le) counted, long⟩
      · have enough := (of_decide_eq_true begins).1
        calc start.elapsedAt + row.policy.consecutiveWindows * row.policy.sampleInterval
            ≤ start.elapsedAt +
                ((row.consecutive + 1 : ℕ) : ℚ≥0) * row.policy.sampleInterval := by gcongr
          _ = start.elapsedAt + row.consecutive * row.policy.sampleInterval +
                row.policy.sampleInterval := by push_cast; ring
          _ ≤ baseline.elapsedAt + row.policy.sampleInterval := by gcongr
          _ ≤ (reading.observedEnd baseline).elapsedAt := long
    · unfold assessComplete
      dsimp only
      rw [if_neg still]
      exact ⟨by rintro _ _ _ ⟨⟩, nofun⟩
  · exact ⟨nofun, nofun⟩

def committedRow (row : PolicyRow) (assessment : Assessment) (drawn : DrawnIds) : PolicyRow :=
  { assessment.row with
    episodeId := if assessment.begins then some drawn.episodeId else row.episodeId }

theorem recordWindow_policies (row : PolicyRow)
    (window : Option (Stamp × Stamp × WindowState × WindowDetails)) (endRevision : ℕ)
    (store : ObservationStore) :
    (recordWindow row window endRevision store).policies = store.policies ∧
      (recordWindow row window endRevision store).episodes = store.episodes ∧
      ∀ stored ∈ (recordWindow row window endRevision store).windows, stored ∈ store.windows ∨
        stored.key = row.key ∧
          window = some (stored.startedAt, stored.endedAt, stored.state, stored.details) := by
  unfold recordWindow
  split
  · exact ⟨rfl, rfl, fun stored member => Or.inl member⟩
  split
  · exact ⟨rfl, rfl, fun stored member => Or.inl member⟩
  · refine ⟨rfl, rfl, fun stored member => ?_⟩
    rcases mem_append.mp member with old | new
    · exact .inl old
    · rw [mem_singleton.mp new]
      exact .inr ⟨rfl, rfl⟩

theorem endEpisode_policies (episode : Option Identifier) (now : Timestamp) (how : EpisodeEnd)
    (store : ObservationStore) : (endEpisode episode now how store).policies = store.policies := by
  unfold endEpisode
  split
  · rfl
  · split <;> rfl

theorem commitAssessment_tables (row : PolicyRow) (reading : Reading) (assessment : Assessment)
    (drawn : DrawnIds) (store : ObservationStore) :
    (commitAssessment row reading assessment drawn store).policies =
        store.policies.put (committedRow row assessment drawn) ∧
      (∀ window ∈ (commitAssessment row reading assessment drawn store).windows,
        window ∈ store.windows ∨ window.key = row.key ∧
          assessment.window =
            some (window.startedAt, window.endedAt, window.state, window.details)) ∧
      ∀ episode ∈ (commitAssessment row reading assessment drawn store).episodes,
        (∃ stored ∈ store.episodes, stored.key = episode.key) ∨
          assessment.begins = true ∧ episode.key = row.key := by
  obtain ⟨policies, episodes, windows⟩ := recordWindow_policies row assessment.window
    reading.status.progressRevision store
  let recorded := recordWindow row assessment.window reading.status.progressRevision store
  obtain ⟨ended, kept, whole⟩ : ∃ ended : ObservationStore,
      (WindowsKept recorded ended ∧ ended.policies = recorded.policies) ∧
        commitAssessment row reading assessment drawn store =
          { (if assessment.begins then
                beginEpisode row reading assessment.row.consecutive drawn ended else ended) with
            policies := (if assessment.begins then
                beginEpisode row reading assessment.row.consecutive drawn ended
              else ended).policies.put (committedRow row assessment drawn) } := by
    unfold commitAssessment
    cases assessment.ends with
    | none => exact ⟨recorded, ⟨.refl recorded, rfl⟩, rfl⟩
    | some how => exact ⟨_, ⟨endEpisode_kept _ _ _ _, endEpisode_policies _ _ _ _⟩, rfl⟩
  have old : ∀ episode ∈ ended.episodes, ∃ stored ∈ store.episodes, stored.key = episode.key := by
    intro episode member
    obtain ⟨stored, before, same⟩ := kept.1.episodes episode member
    exact ⟨stored, episodes ▸ before, same⟩
  rw [whole]
  cases assessment.begins with
  | false =>
    refine ⟨?_, fun window member => windows window ?_, fun episode member =>
      Or.inl (old episode member)⟩
    · show ended.policies.put _ = _
      rw [kept.2, policies]
    · rw [← kept.1.windows]
      exact member
  | true =>
    refine ⟨?_, fun window member => windows window ?_, fun episode member => ?_⟩
    · show ended.policies.put _ = _
      rw [kept.2, policies]
    · rw [← kept.1.windows]
      exact member
    · rcases mem_put.mp member with rfl | ⟨before, -⟩
      · exact .inr ⟨rfl, rfl⟩
      · exact .inl (old episode before)

variable {drawn : DrawnIds}

theorem evaluate_eq_some
    (committed : evaluate arithmetic sampler row reading drawn store = some after) :
    (∃ current, store.policies.find? row.key = some current ∧
        current.revision = row.revision ∧ current.state = .active) ∧
      ((assess arithmetic sampler row reading).begins = true → drawn.fresh store) ∧
      after = commitAssessment row reading (assess arithmetic sampler row reading) drawn store := by
  unfold evaluate at committed
  dsimp only at committed
  split at committed
  · cases committed
  rename_i current found
  obtain ⟨stored, matched⟩ := filter_eq_some_iff.mp found
  simp only [decide_and, and_eq_true, decide_eq_true_eq] at matched
  split at committed
  · cases committed
  rename_i allowed
  push Not at allowed
  exact ⟨⟨current, stored, matched⟩, allowed, (Option.some.inj committed).symm⟩

theorem evaluate_of_fresh (current : (evaluable row store).isSome = true)
    (fresh : drawn.fresh store) :
    evaluate arithmetic sampler row reading drawn store =
      some (commitAssessment row reading (assess arithmetic sampler row reading) drawn store) := by
  obtain ⟨stored, found⟩ := isSome_iff_exists.mp current
  unfold evaluate
  rw [found]
  dsimp only
  rw [if_neg (fun stale => stale.2 fresh)]

end Committing

/-! ### Steady runs -/

section Runs

variable {arithmetic : FloatArithmetic} {state next : SupervisorState}

/-- Every row that was read is still there, unchanged if its revision is. -/
def SupervisorState.Remembers (state : SupervisorState) : Prop :=
  ∀ copy ∈ state.reads, copy.state.waiting = false ∧
    ∃ current ∈ state.store.policies, After copy current

variable {row : PolicyRow} {sampler : Sampler} {reading : Reading} {drawn : DrawnIds}

theorem SupervisorState.Remembers.stored (remembers : state.Remembers) {current : PolicyRow}
    (readBefore : row ∈ state.reads) (found : state.store.policies.find? row.key = some current)
    (sameRevision : current.revision = row.revision) : row ∈ state.store.policies := by
  obtain ⟨-, latest, present, advanced⟩ := remembers row readBefore
  have same : latest = current :=
    eq_of_key_eq present (mem_of_find? found) (advanced.key.trans (key_of_find? found).symm)
  rcases advanced.changed with unchanged | later
  · exact unchanged ▸ present
  · rw [same, sameRevision] at later
    exact absurd later (lt_irrefl _)

theorem committedRow_after (arithmetic : FloatArithmetic) (sampler : Sampler) (row : PolicyRow)
    (reading : Reading) (drawn : DrawnIds) :
    After row (committedRow row (assess arithmetic sampler row reading) drawn) := by
  obtain ⟨key, policy, revision, waits⟩ := assess_row arithmetic sampler row reading
  refine ⟨key, policy, waits, Or.inr ?_⟩
  show row.revision < (assess arithmetic sampler row reading).row.revision
  omega

theorem commitAssessment_forward (stored : row ∈ store.policies) :
    ∀ other ∈ store.policies, ∃ later ∈ (commitAssessment row reading
      (assess arithmetic sampler row reading) drawn store).policies, After other later := by
  have written := committedRow_after arithmetic sampler row reading drawn
  intro other member
  rw [(commitAssessment_tables row reading _ drawn store).1]
  by_cases same : other.key = row.key
  · cases eq_of_key_eq member stored same
    exact ⟨_, mem_put.mpr (.inl rfl), written⟩
  · refine ⟨other, mem_put.mpr (.inr ⟨member, ?_⟩), .refl other⟩
    rw [written.key]
    exact same

theorem SupervisorState.Sound.evaluated (sound : state.Sound arithmetic)
    (readBefore : row ∈ state.reads) (steady : Steady arithmetic row reading)
    (committed : evaluate arithmetic sampler row reading drawn state.store = some after) :
    SupervisorState.Sound arithmetic
      { state with
        store := after
        log := state.log ++ [evaluationOf row sampler reading] } := by
  obtain ⟨⟨current, found, sameRevision, -⟩, -, rfl⟩ := evaluate_eq_some committed
  have chosen := (sound.reads row readBefore).1
  have stored : row ∈ state.store.policies :=
    SupervisorState.Remembers.stored sound.reads readBefore found sameRevision
  obtain ⟨truth, -⟩ := sound.rows row stored
  obtain ⟨policies, windows, episodes⟩ := commitAssessment_tables row reading
    (assess arithmetic sampler row reading) drawn state.store
  have written := committedRow_after arithmetic sampler row reading drawn
  have logged : entriesOf row.key (state.log ++ [evaluationOf row sampler reading]) =
      entriesOf row.key state.log ++ [evaluationOf row sampler reading] := by
    rw [entriesOf_append, if_pos (show (evaluationOf row sampler reading).key = row.key from rfl)]
  have forward : ∀ other ∈ state.store.policies,
      ∃ later ∈ (commitAssessment row reading (assess arithmetic sampler row reading) drawn
        state.store).policies, After other later := commitAssessment_forward stored
  obtain ⟨stalledWindow, stalledEpisode⟩ := assess_stalled truth steady logged
  obtain ⟨last, lastStored, lastAdvanced⟩ := forward row stored
  refine ⟨fun later member => ?_, fun copy member => ?_, fun window member stalled => ?_,
    fun episode member => ?_⟩
  · rw [show SupervisorState.store _ = _ from rfl, policies] at member
    rcases mem_put.mp member with rfl | ⟨old, differs⟩
    · have kept := truth.assess sampler steady
      have idle : (committedRow row (assess arithmetic sampler row reading) drawn).state.waiting ≠
          true := fun waiting => by
        rw [written.chosen chosen] at waiting
        cases waiting
      refine ⟨?_, fun waiting => absurd waiting idle⟩
      rw [written.key, logged]
      exact kept.carry ⟨Or.inl rfl, rfl, id, rfl, rfl, rfl, rfl, rfl⟩
    · rw [written.key] at differs
      obtain ⟨kept, idle⟩ := sound.rows later old
      refine ⟨?_, idle⟩
      have apart : (evaluationOf row sampler reading).key ≠ later.key := Ne.symm differs
      rw [entriesOf_append, if_neg apart, append_nil]
      exact kept
  · obtain ⟨copyChosen, older, before, until_⟩ := sound.reads copy member
    obtain ⟨later, kept, further⟩ := forward older before
    exact ⟨copyChosen, later, kept, until_.trans further⟩
  · rcases windows window member with old | ⟨same, recorded⟩
    · obtain ⟨other, before, otherChosen, held⟩ := sound.windows window old stalled
      obtain ⟨later, kept, further⟩ := forward other before
      exact ⟨later, kept, further.chosen otherChosen, (held.grow _).carry further⟩
    · rw [stalled] at recorded
      obtain ⟨start, span, quiet, early, long⟩ := stalledWindow _ _ _ recorded
      have held : WindowHeld arithmetic (state.log ++ [evaluationOf row sampler reading]) window
          row := ⟨same.symm, start, span, quiet, early, long⟩
      exact ⟨last, lastStored, lastAdvanced.chosen chosen, held.carry lastAdvanced⟩
  · rcases episodes episode member with ⟨old, before, same⟩ | ⟨begins, same⟩
    · obtain ⟨other, otherStored, otherChosen, held⟩ := sound.episodes old before
      obtain ⟨later, kept, further⟩ := forward other otherStored
      rw [same] at held
      exact ⟨later, kept, further.chosen otherChosen, (held.grow _).carry further⟩
    · obtain ⟨start, finish, span, quiet, long⟩ := stalledEpisode begins
      have held : EpisodeHeld arithmetic (state.log ++ [evaluationOf row sampler reading])
          episode.key row := ⟨same.symm, start, finish, span, quiet, long⟩
      exact ⟨last, lastStored, lastAdvanced.chosen chosen, held.carry lastAdvanced⟩

theorem SupervisorStep.sound {answered : EpisodeRow → Prop}
    (step : SupervisorStep arithmetic (Steady arithmetic) answered state next)
    (sound : state.Sound arithmetic) : next.Sound arithmetic := by
  cases step with
  | watch subscription previous authority maxPolicies now accepted =>
    exact sound.keep (watch_kept accepted)
  | select row status => exact sound.keep (selectPolicy_kept row status state.store)
  | read row stored active =>
    refine ⟨sound.rows, fun copy member => ?_, sound.windows, sound.episodes⟩
    rcases mem_cons.mp member with rfl | old
    · exact ⟨by rw [active]; rfl, copy, stored, .refl copy⟩
    · exact sound.reads copy old
  | evaluate row sampler reading drawn readBefore steady committed =>
    exact sound.evaluated readBefore steady committed
  | clear row => exact sound.keep (clearEpisode_kept row state.store)
  | confirm row stored registered => exact sound.keep (confirmEpisode_kept row state.store)
  | refuse row status error now =>
    exact sound.keep (refuseEpisode_kept row status error now state.store)
  | expire now => exact sound.keep (expireDeliveries_kept now state.store)
  | claim notificationId lease now claimed => exact sound.keep (claimDelivery_kept claimed)
  | settle notificationId leaseId error now nextAttemptAt =>
    exact sound.keep (settleDelivery_kept notificationId leaseId error now nextAttemptAt state.store)
  | retry notificationId expectedRevision now accepted => exact sound.keep (retryDead_kept accepted)

theorem sound_of_steady (reachable : (supervisors arithmetic (Steady arithmetic)).Reachable state) :
    state.Sound arithmetic := by
  refine reachable.invariant (SupervisorState.Sound arithmetic) ?_ ?_
  · rintro _ rfl
    exact ⟨by rintro _ ⟨⟩, by rintro _ ⟨⟩, by rintro _ ⟨⟩, by rintro _ ⟨⟩⟩
  · exact fun _ _ _ sound step => SupervisorStep.sound step sound

/-- In a steady run every stalled window is as long as the interval of its policy, and every episode
as long as all of its windows, while nothing changed. -/
theorem steady_windows_true
    (reachable : (supervisors arithmetic (Steady arithmetic)).Reachable state) :
    NoFalseStall arithmetic state := by
  have sound := sound_of_steady reachable
  refine ⟨fun window member stalled => ?_, fun episode member => ?_⟩
  · obtain ⟨row, stored, -, held⟩ := sound.windows window member stalled
    exact ⟨row, stored, held⟩
  · obtain ⟨row, stored, -, held⟩ := sound.episodes episode member
    exact ⟨row, stored, held⟩

end Runs

/-! ### A wall clock that gains -/

def samplePolicy : StallPolicy where
  policyId := ⟨"policy", by decide⟩
  metrics := [⟨"progress", by decide⟩]
  sampleInterval := (10 : ℕ)
  consecutiveWindows := 1
  waitExemptions := []
  maxDeliveries := 1
  version := 1
  intervalPositive := by decide +kernel
  windowsPositive := first_positive
  deliveriesPositive := first_positive
  versionPositive := first_positive
  metricsBounded := by decide

def sampleStatus : SupervisionStatus where
  executionState := .running
  attempt := 1
  fence := 1
  progressRevision := 0
  entry := .confirmed 1 1

/-- A reading at a time of the wall clock and one of the monotonic clock, with a collector that
has just reported. -/
def sampleReading (wallAt elapsedAt : Timestamp) : Reading where
  sample := ⟨wallAt, elapsedAt, some ⟨"boot", by decide⟩, .boot, none, by decide⟩
  status := sampleStatus
  report :=
    { current := true
      truncated := false
      collectionGaps := 0
      sources := [⟨⟨"collector", by decide⟩, true, true⟩]
      waits := []
      childWaits := []
      metrics := []
      capturedAt := some ⟨wallAt, elapsedAt⟩ }

def sampleSubscription : Subscription where
  identity := ⟨⟨"execution", by decide⟩, 1, 1⟩
  policy := samplePolicy
  target := "{}"

def sampleWatched : PolicyRow := sampleSubscription.row sampleStatus 0

def sampleSelected : PolicyRow := { sampleWatched with state := .active, revision := 2 }

def sampleSampler : Sampler := ⟨1, (20 : ℕ)⟩

def sampleDrawn : DrawnIds := ⟨⟨"episode", by decide⟩, ⟨"notification", by decide⟩⟩

def sampleStore : ObservationStore :=
  selectPolicy sampleWatched sampleStatus
    { ObservationStore.empty with policies := (∅ : Table PolicyRow.key).put sampleWatched }

def sampleNext (row : PolicyRow) (store : ObservationStore) (reading : Reading) :
    PolicyRow × ObservationStore :=
  let assessment := assess .exact sampleSampler row reading
  (committedRow row assessment sampleDrawn,
    commitAssessment row reading assessment sampleDrawn store)

def sampleFirst : PolicyRow × ObservationStore :=
  sampleNext sampleSelected sampleStore (sampleReading 0 0)

def sampleSecond (wallAt elapsedAt : Timestamp) : PolicyRow × ObservationStore :=
  sampleNext sampleFirst.1 sampleFirst.2 (sampleReading wallAt elapsedAt)

def sampleEnd (wallAt elapsedAt : Timestamp) : SupervisorState where
  store := (sampleSecond wallAt elapsedAt).2
  reads := [sampleFirst.1, sampleSelected]
  log :=
    [evaluationOf sampleSelected sampleSampler (sampleReading 0 0),
      evaluationOf sampleFirst.1 sampleSampler (sampleReading wallAt elapsedAt)]
  deliveries := []
  retries := []

theorem sampleEnd_reachable (allowed : PolicyRow → Reading → Prop) (wallAt elapsedAt : Timestamp)
    (first : allowed sampleSelected (sampleReading 0 0))
    (second : allowed sampleFirst.1 (sampleReading wallAt elapsedAt)) :
    (supervisors .exact allowed).Reachable (sampleEnd wallAt elapsedAt) := by
  have start : (supervisors .exact allowed).Reachable .empty := .start rfl
  have watched := start.next (.watch sampleSubscription none sampleStatus 5 0
    (rfl : watch sampleSubscription none sampleStatus 5 0 .empty = .ok (false,
      { ObservationStore.empty with policies := (∅ : Table PolicyRow.key).put sampleWatched })))
  have selected := watched.next (.select sampleWatched sampleStatus)
  have read := selected.next (.read sampleSelected (mem_singleton.mpr rfl) rfl)
  have evaluated := read.next (.evaluate sampleSelected sampleSampler (sampleReading 0 0)
    sampleDrawn mem_cons_self first (rfl : _ = some sampleFirst.2))
  have again := evaluated.next (.read sampleFirst.1 (mem_singleton.mpr rfl) rfl)
  exact again.next (.evaluate sampleFirst.1 sampleSampler (sampleReading wallAt elapsedAt)
    sampleDrawn mem_cons_self second
    (evaluate_of_fresh (by decide +kernel) (by decide +kernel)))

/-- Ten seconds on both clocks. -/
theorem steady_windows_true_sample :
    (sampleEnd 10 10).store.windows.any (fun window => window.state = .stalled) = true ∧
      NoFalseStall .exact (sampleEnd 10 10) := by
  refine ⟨by decide +kernel, steady_windows_true (sampleEnd_reachable _ 10 10 ?_ ?_)⟩
  · rintro _ ⟨⟩
  · rintro _ ⟨⟩
    refine ⟨?_, by decide +kernel⟩
    rintro _ ⟨⟩
    exact le_rfl

/-- The wall clock is set forward by an hour, one second after the baseline: a window of an hour
and an episode are recorded. -/
theorem forward_jump_stalls :
    ∃ state, (supervisors .exact fun _ _ => True).Reachable state ∧
      ¬ NoFalseStall .exact state := by
  refine ⟨sampleEnd 3600 1, sampleEnd_reachable _ 3600 1 trivial trivial, ?_⟩
  intro claimed
  have recorded : (sampleEnd 3600 1).store.windows.any (fun window =>
      window.state = .stalled && window.startedAt.elapsedAt = 0 &&
        window.endedAt.elapsedAt = 1) = true := by decide +kernel
  have interval : ∀ row ∈ (sampleEnd 3600 1).store.policies.rows,
      row.policy.sampleInterval = 10 := by decide +kernel
  obtain ⟨window, member, found⟩ := any_eq_true.mp recorded
  simp only [and_eq_true, decide_eq_true_eq] at found
  obtain ⟨⟨stalled, started⟩, ended⟩ := found
  obtain ⟨row, stored, -, start, span, -, -, long⟩ := claimed.1 window member stalled
  rw [interval row stored, started, ended] at long
  exact absurd long (by decide +kernel)

end DispatcherSdk.Observability
