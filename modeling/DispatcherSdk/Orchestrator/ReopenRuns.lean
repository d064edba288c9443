/-
This file proves what the protocol of reopening Runs keeps in every order of its steps, and
where it does not keep Runs and their reopening apart.

Deliveries are held back by a flush that reads first which Runs are being reopened and then what
is pending: a recovery that is prepared and committed in between has its messages delivered
before it is activated.
-/

import DispatcherSdk.Orchestrator.ReopenMoves

namespace DispatcherSdk.Orchestrator

open Library Library.Checked Table List Bool
open ExecutionKernel hiding ExecutionRow OutboxRow EventRow Operation

/-! ### Recoveries and generations -/

namespace ReopenRecord.Follows

theorem refl (row : ReopenRecord) : row.Follows row := ⟨rfl, rfl, rfl, rfl, rfl, rfl, id⟩

variable {stored row : ReopenRecord}

theorem committed (follows : stored.Follows row) (active : stored.status.active = true) :
    stored.Follows { row with status := .committed } :=
  ⟨follows.recoveryId, follows.runId, follows.commandId, follows.sourceGeneration,
    follows.targetGeneration, follows.operations, fun _ => active⟩

theorem of_put {recoveries : Table ReopenRecord.recoveryId} (member : stored ∈ recoveries)
    (follows : stored.Follows row) :
    ∀ later ∈ recoveries.put row, ∃ old ∈ recoveries, old.Follows later := by
  intro later written
  rcases mem_put.mp written with rfl | ⟨old, _⟩
  · exact ⟨stored, member, follows⟩
  · exact ⟨later, old, refl later⟩

end ReopenRecord.Follows

/-- What holds of every mutation that a recovery has committed. -/
structure ReopenCommit.Sound (commit : ReopenCommit) : Prop where
  made : ∃ outbox, commit.Made outbox
  running : commit.after.state = .running
  generation : commit.after.generation = commit.before.generation + 1

namespace Reopening

/-- How many recoveries have been committed for a Run. -/
def commitsOf (state : Reopening) (runId : Identifier) : ℕ :=
  state.commits.countP fun commit => decide (commit.recovery.runId = runId)

/-- The invariants of Runs and recoveries. -/
structure Sound (state : Reopening) : Prop where
  single : ∀ left ∈ state.recoveries, ∀ right ∈ state.recoveries, left.status.active = true →
    right.status.active = true → left.runId = right.runId → left = right
  unfinished : state.Unfinished
  known : ∀ recovery ∈ state.recoveries, ∃ run, state.runs.find? recovery.runId = some run
  target : ∀ recovery ∈ state.recoveries, recovery.targetGeneration = recovery.sourceGeneration + 1
  /-- Until a recovery is committed its Run stays in the generation that it started from. -/
  source : ∀ recovery ∈ state.recoveries, recovery.status.active = true →
    recovery.status.mutated = false → ∀ run, state.runs.find? recovery.runId = some run →
      run.generation = recovery.sourceGeneration
  counted : ∀ name run, state.runs.find? name = some run → run.generation = state.commitsOf name
  once : (state.commits.map fun commit => commit.recovery.recoveryId).Nodup
  logged : ∀ commit ∈ state.commits, commit.Sound ∧ ∃ recovery ∈ state.recoveries,
    recovery.recoveryId = commit.recovery.recoveryId ∧
      recovery.runId = commit.recovery.runId ∧ recovery.status.mutated = true
  mutated : ∀ recovery ∈ state.recoveries, recovery.status.mutated = true →
    ∃ commit ∈ state.commits, commit.recovery.recoveryId = recovery.recoveryId

variable {before after : Reopening}

section

variable (sound : before.Sound)

include sound

theorem Sound.commitsOf_absent {name : Identifier} (absent : before.runs.find? name = none) :
    before.commitsOf name = 0 := by
  refine countP_eq_zero.mpr fun commit member here => ?_
  obtain ⟨_, recovery, stored, _, sameRun, _⟩ := sound.logged commit member
  obtain ⟨run, found⟩ := sound.known recovery stored
  rw [sameRun, of_decide_eq_true here, absent] at found
  cases found

theorem Sound.keep (runs : RunsKeep before.runs after.runs)
    (recoveries : after.recoveries = before.recoveries) (commits : after.commits = before.commits) :
    after.Sound := by
  have counts : ∀ name, after.commitsOf name = before.commitsOf name := by
    intro name
    unfold commitsOf
    rw [commits]
  refine ⟨?_, ?_, ?_, ?_, ?_, fun name later found => ?_, ?_, ?_, ?_⟩
  · rw [recoveries]
    exact sound.single
  · unfold Unfinished
    rw [recoveries]
    exact sound.unfinished
  · rw [recoveries]
    intro recovery member
    obtain ⟨run, found⟩ := sound.known recovery member
    obtain ⟨later, there, _⟩ := runs.kept _ run found
    exact ⟨later, there⟩
  · rw [recoveries]
    exact sound.target
  · rw [recoveries]
    intro recovery member active unmutated later found
    rcases runs.known _ later found with ⟨run, there, same⟩ | ⟨absent, _⟩
    · exact same.symm.trans (sound.source recovery member active unmutated run there)
    · obtain ⟨run, there⟩ := sound.known recovery member
      cases absent.symm.trans there
  · rw [counts]
    rcases runs.known name later found with ⟨run, there, same⟩ | ⟨absent, first⟩
    · exact same.symm.trans (sound.counted name run there)
    · rw [first, sound.commitsOf_absent absent]
  · rw [commits]
    exact sound.once
  · rw [commits, recoveries]
    exact sound.logged
  · rw [commits, recoveries]
    exact sound.mutated

variable {stored row : ReopenRecord}

theorem Sound.single_put (member : stored ∈ before.recoveries) (follows : stored.Follows row) :
    ∀ left ∈ before.recoveries.put row, ∀ right ∈ before.recoveries.put row,
      left.status.active = true → right.status.active = true → left.runId = right.runId →
        left = right := by
  intro left leftMember right rightMember leftActive rightActive same
  obtain ⟨first, firstMember, ofFirst⟩ := follows.of_put member left leftMember
  obtain ⟨second, secondMember, ofSecond⟩ := follows.of_put member right rightMember
  have one := sound.single first firstMember second secondMember (ofFirst.active leftActive)
    (ofSecond.active rightActive) (ofFirst.runId.symm.trans (same.trans ofSecond.runId))
  refine eq_of_key_eq leftMember rightMember ?_
  exact ofFirst.recoveryId.trans ((congrArg _ one).trans ofSecond.recoveryId.symm)

theorem Sound.rewrite (member : stored ∈ before.recoveries)
    (onward : stored.Onward row) (recoveries : after.recoveries = before.recoveries.put row)
    (runs : after.runs = before.runs) (commits : after.commits = before.commits) : after.Sound := by
  have earlier : ∀ later ∈ before.recoveries.put row, ∃ old ∈ before.recoveries,
      old.Follows later ∧ later.status.mutated = old.status.mutated := by
    intro later written
    rcases mem_put.mp written with rfl | ⟨old, _⟩
    · exact ⟨stored, member, onward.toFollows, onward.mutated⟩
    · exact ⟨later, old, .refl later, rfl⟩
  have counts : ∀ name, after.commitsOf name = before.commitsOf name := by
    intro name
    unfold commitsOf
    rw [commits]
  refine ⟨?_, ?_, ?_, ?_, ?_, ?_, ?_, ?_, ?_⟩
  · rw [recoveries]
    exact sound.single_put member onward.toFollows
  · unfold Unfinished
    rw [recoveries]
    intro later written
    obtain ⟨old, there, follows, _⟩ := earlier later written
    rw [follows.operations]
    exact sound.unfinished old there
  · rw [recoveries, runs]
    intro later written
    obtain ⟨old, there, follows, _⟩ := earlier later written
    rw [follows.runId]
    exact sound.known old there
  · rw [recoveries]
    intro later written
    obtain ⟨old, there, follows, _⟩ := earlier later written
    rw [follows.targetGeneration, follows.sourceGeneration]
    exact sound.target old there
  · rw [recoveries, runs]
    intro later written active unmutated run found
    obtain ⟨old, there, follows, same⟩ := earlier later written
    rw [follows.runId] at found
    rw [follows.sourceGeneration]
    exact sound.source old there (follows.active active) (same.symm.trans unmutated) run found
  · rw [runs]
    intro name run found
    rw [counts]
    exact sound.counted name run found
  · rw [commits]
    exact sound.once
  · rw [commits, recoveries]
    intro commit listed
    obtain ⟨facts, recovery, there, sameId, sameRun, done⟩ := sound.logged commit listed
    refine ⟨facts, ?_⟩
    by_cases here : recovery.recoveryId = row.recoveryId
    · have one : recovery = stored := eq_of_key_eq there member (here.trans onward.recoveryId)
      subst one
      exact ⟨row, mem_put.mpr (.inl rfl), here.symm.trans sameId,
        onward.runId.trans sameRun, onward.mutated.trans done⟩
    · exact ⟨recovery, mem_put.mpr (.inr ⟨there, here⟩), sameId, sameRun, done⟩
  · rw [commits, recoveries]
    intro later written done
    obtain ⟨old, there, follows, same⟩ := earlier later written
    rw [follows.recoveryId]
    exact sound.mutated old there (same.symm.trans done)

theorem Sound.prepare {run : RunSnapshot} (fresh : before.recoveries.find? row.recoveryId = none)
    (found : before.runs.find? row.runId = some run)
    (idle : ∀ recovery ∈ before.recoveries, recovery.runId = row.runId →
      recovery.status.active = false) (status : row.status = .prepared)
    (source : row.sourceGeneration = run.generation)
    (target : row.targetGeneration = run.generation + 1)
    (continues : ∀ operation ∈ row.operations, operation.finishes = false)
    (recoveries : after.recoveries = before.recoveries.put row) (runs : after.runs = before.runs)
    (commits : after.commits = before.commits) : after.Sound := by
  have counts : ∀ name, after.commitsOf name = before.commitsOf name := by
    intro name
    unfold commitsOf
    rw [commits]
  have members : ∀ later ∈ before.recoveries.put row, later = row ∨ later ∈ before.recoveries :=
    fun later written => (mem_put.mp written).imp_right And.left
  have alone : ∀ other ∈ before.recoveries, other.status.active = true →
      other.runId ≠ row.runId := by
    intro other there active same
    cases (idle other there same).symm.trans active
  refine ⟨?_, ?_, ?_, ?_, ?_, ?_, ?_, ?_, ?_⟩
  · rw [recoveries]
    intro left leftMember right rightMember leftActive rightActive same
    rcases members left leftMember with rfl | leftOld
    · rcases members right rightMember with rfl | rightOld
      · rfl
      · exact absurd same.symm (alone right rightOld rightActive)
    · rcases members right rightMember with rfl | rightOld
      · exact absurd same (alone left leftOld leftActive)
      · exact sound.single left leftOld right rightOld leftActive rightActive same
  · unfold Unfinished
    rw [recoveries]
    intro later written
    rcases members later written with rfl | old
    · exact continues
    · exact sound.unfinished later old
  · rw [recoveries, runs]
    intro later written
    rcases members later written with rfl | old
    · exact ⟨run, found⟩
    · exact sound.known later old
  · rw [recoveries]
    intro later written
    rcases members later written with rfl | old
    · rw [target, source]
    · exact sound.target later old
  · rw [recoveries, runs]
    intro later written active unmutated other there
    rcases members later written with rfl | old
    · cases found.symm.trans there
      exact source.symm
    · exact sound.source later old active unmutated other there
  · rw [runs]
    intro name other there
    rw [counts]
    exact sound.counted name other there
  · rw [commits]
    exact sound.once
  · rw [commits, recoveries]
    intro commit listed
    obtain ⟨facts, recovery, there, same⟩ := sound.logged commit listed
    exact ⟨facts, recovery, mem_put_of_fresh _ fresh there, same⟩
  · rw [commits, recoveries]
    intro later written done
    rcases members later written with rfl | old
    · rw [status] at done
      cases done
    · exact sound.mutated later old done

theorem Sound.commit {commit : ReopenCommit}
    (member : stored ∈ before.recoveries) (onward : stored.Onward commit.recovery)
    (active : stored.status.active = true) (unmutated : stored.status.mutated = false)
    (found : before.runs.find? commit.recovery.runId = some commit.before)
    (made : commit.Made before.outbox.rows) (recoveries : after.recoveries =
      before.recoveries.put { commit.recovery with status := .committed })
    (runs : after.runs = before.runs.put commit.after)
    (commits : after.commits = commit :: before.commits) : after.Sound := by
  have follows := onward.toFollows.committed active
  have named : commit.before.runId = commit.recovery.runId := key_of_find? found
  have origin : commit.before.generation = stored.sourceGeneration :=
    sound.source stored member active unmutated commit.before (onward.runId ▸ found)
  have next : commit.recovery.targetGeneration = commit.before.generation + 1 := by
    rw [onward.targetGeneration, sound.target stored member, origin]
  obtain ⟨stack, reduction, applied, saved, _⟩ := made.operations
  obtain ⟨⟨sameRun, sameGeneration⟩, sameState⟩ := reopenOperations_keeps
    (by rw [onward.operations]; exact sound.unfinished stored member) applied
  have afterRun : commit.after.runId = commit.recovery.runId := by
    rw [saved]
    exact sameRun.trans named
  have facts : commit.Sound := by
    refine ⟨⟨_, made⟩, ?_, ?_⟩
    · rw [saved]
      exact sameState
    · rw [saved]
      exact sameGeneration.trans next
  have elsewhere : ∀ other ∈ before.recoveries, other.status.active = true →
      other.recoveryId ≠ commit.recovery.recoveryId → other.runId ≠ commit.recovery.runId := by
    intro other there running differs same
    have one := sound.single other there stored member running active (same.trans onward.runId)
    exact differs (one ▸ onward.recoveryId.symm)
  have counts : ∀ name, after.commitsOf name =
      if name = commit.recovery.runId then before.commitsOf name + 1
      else before.commitsOf name := by
    intro name
    unfold commitsOf
    rw [commits, countP_cons]
    by_cases here : name = commit.recovery.runId
    · rw [if_pos here, if_pos (decide_eq_true here.symm)]
    · rw [if_neg here, if_neg (by simpa using Ne.symm here), Nat.add_zero]
  have looked : ∀ name, after.runs.find? name =
      if name = commit.recovery.runId then some commit.after else before.runs.find? name := by
    intro name
    rw [runs, find?_put, afterRun]
  refine ⟨?_, ?_, ?_, ?_, ?_, ?_, ?_, ?_, ?_⟩
  · rw [recoveries]
    exact sound.single_put member follows
  · unfold Unfinished
    rw [recoveries]
    intro later written
    obtain ⟨old, there, same⟩ := follows.of_put member later written
    rw [same.operations]
    exact sound.unfinished old there
  · rw [recoveries]
    intro later written
    obtain ⟨old, there, same⟩ := follows.of_put member later written
    rw [same.runId, looked]
    split
    · exact ⟨commit.after, rfl⟩
    · exact sound.known old there
  · rw [recoveries]
    intro later written
    obtain ⟨old, there, same⟩ := follows.of_put member later written
    rw [same.targetGeneration, same.sourceGeneration]
    exact sound.target old there
  · rw [recoveries]
    intro later written running open_ run there
    rcases mem_put.mp written with rfl | ⟨old, differs⟩
    · cases open_
    · rw [looked, if_neg (elsewhere later old running differs)] at there
      exact sound.source later old running open_ run there
  · intro name run there
    rw [looked] at there
    rw [counts]
    by_cases here : name = commit.recovery.runId
    · rw [if_pos here] at there ⊢
      cases there
      rw [facts.generation, sound.counted name commit.before (here ▸ found)]
    · rw [if_neg here] at there ⊢
      exact sound.counted name run there
  · rw [commits, map_cons, nodup_cons]
    refine ⟨fun repeated => ?_, sound.once⟩
    obtain ⟨earlier, listed, same⟩ := mem_map.mp repeated
    obtain ⟨_, recovery, there, sameId, _, done⟩ := sound.logged earlier listed
    have one : recovery = stored :=
      eq_of_key_eq there member (sameId.trans (same.trans onward.recoveryId))
    rw [one, unmutated] at done
    cases done
  · rw [commits, recoveries]
    intro other listed
    rcases mem_cons.mp listed with rfl | old
    · exact ⟨facts, _, mem_put.mpr (.inl rfl), rfl, rfl, rfl⟩
    · obtain ⟨sane, recovery, there, sameId, sameRun, done⟩ := sound.logged other old
      refine ⟨sane, recovery, mem_put.mpr (.inr ⟨there, ?_⟩), sameId, sameRun, done⟩
      intro same
      have one : recovery = stored := eq_of_key_eq there member (same.trans onward.recoveryId)
      rw [one, unmutated] at done
      cases done
  · rw [commits, recoveries]
    intro later written done
    rcases mem_put.mp written with rfl | ⟨old, _⟩
    · exact ⟨commit, mem_cons_self, rfl⟩
    · obtain ⟨other, listed, same⟩ := sound.mutated later old done
      exact ⟨other, mem_cons_of_mem commit listed, same⟩

end

theorem Sound.move (sound : before.Sound) (move : Move before after) : after.Sound := by
  cases move with
  | command runId commandId quiet runs recoveries commits writes =>
    exact sound.keep runs recoveries commits
  | sync runs recoveries commits silent => exact sound.keep runs recoveries commits
  | rewrite stored row member onward recoveries runs commits silent =>
    exact sound.rewrite member onward recoveries runs commits
  | prepare row run fresh found idle settled status source target continues recoveries runs commits
      silent =>
    exact sound.prepare fresh found idle status source target continues recoveries runs commits
  | commit stored commit member onward active unmutated found made recoveries runs commits writes =>
    exact sound.commit member onward active unmutated found made recoveries runs commits

/-! ### Deliveries -/

def Accepted (state : Reopening) (executionId : Identifier) : Prop :=
  ∃ admission, state.kernel.find? executionId = some admission

def Queued (state : Reopening) (message : OutboxRow) : Prop :=
  ∃ row ∈ state.outbox, row.sequence = message.sequence ∧ row.runId = message.runId ∧
    row.executionId = message.executionId

def Idle (state : Reopening) (runId : Identifier) : Prop :=
  ∀ recovery ∈ state.recoveries, recovery.runId = runId → recovery.status.active = false

/-- The message may be delivered: the Kernel knows it, or its Run is not being reopened. -/
def Due (state : Reopening) (message : OutboxRow) : Prop :=
  state.Queued message ∧ (state.Accepted message.executionId ∨ state.Idle message.runId)

def Certain (state : Reopening) : FlushPhase → Prop
  | .begun _ => True
  | .working messages => ∀ message ∈ messages, state.Due message
  | .submitted message rest =>
    state.Queued message ∧ state.Accepted message.executionId ∧ ∀ other ∈ rest, state.Due other

/-- The invariants of messages and flushes. -/
structure Quiet (state : Reopening) : Prop where
  numbered : state.Numbered
  delivered : ∀ message ∈ state.outbox, message.delivered = true →
    state.Accepted message.executionId
  flushes : ∀ phase ∈ state.flushes, state.Certain phase

/-- Nothing that a flush relies on is lost; a Run whose reopening begins has no message pending. -/
structure Grows (before after : Reopening) : Prop where
  kernel : ∀ name, before.Accepted name → after.Accepted name
  outbox : ∀ message ∈ before.outbox, ∃ later ∈ after.outbox,
    later.sequence = message.sequence ∧ later.runId = message.runId ∧
      later.executionId = message.executionId
  idle : ∀ runId, before.Idle runId → after.Idle runId ∨
    ∀ message ∈ before.outbox, message.runId = runId → message.delivered = true

theorem Grows.queued (grows : Grows before after) {message : OutboxRow}
    (queued : before.Queued message) : after.Queued message := by
  obtain ⟨row, member, sequence, run, execution⟩ := queued
  obtain ⟨later, there, sameSequence, sameRun, sameExecution⟩ := grows.outbox row member
  exact ⟨later, there, sameSequence.trans sequence, sameRun.trans run,
    sameExecution.trans execution⟩

theorem Grows.due (grows : Grows before after) (quiet : before.Quiet) {message : OutboxRow}
    (due : before.Due message) : after.Due message := by
  obtain ⟨queued, licence⟩ := due
  refine ⟨grows.queued queued, ?_⟩
  rcases licence with accepted | idle
  · exact .inl (grows.kernel _ accepted)
  · rcases grows.idle _ idle with still | settled
    · exact .inr still
    · obtain ⟨row, member, _, run, execution⟩ := queued
      have known := quiet.delivered row member (settled row member run)
      rw [execution] at known
      exact .inl (grows.kernel _ known)

variable {phase : FlushPhase}

theorem Grows.certain (grows : Grows before after) (quiet : before.Quiet)
    (certain : before.Certain phase) : after.Certain phase := by
  cases phase with
  | begun blocked => trivial
  | working messages => exact fun message member => grows.due quiet (certain message member)
  | submitted message rest =>
    exact ⟨grows.queued certain.1, grows.kernel _ certain.2.1,
      fun other member => grows.due quiet (certain.2.2 other member)⟩

theorem grows_of_same (kernel : after.kernel = before.kernel) (outbox : after.outbox = before.outbox)
    (recoveries : after.recoveries = before.recoveries) : Grows before after where
  kernel name accepted := by
    unfold Accepted
    rw [kernel]
    exact accepted
  outbox message member := ⟨message, outbox ▸ member, rfl, rfl, rfl⟩
  idle runId idle := by
    refine Or.inl ?_
    unfold Idle
    rw [recoveries]
    exact idle

theorem Writes.grows {runId commandId : Identifier} (writes : Writes runId commandId before after)
    (numbered : before.Numbered) (idle : ∀ runId, before.Idle runId → after.Idle runId ∨
      ∀ message ∈ before.outbox, message.runId = runId → message.delivered = true) :
    Grows before after where
  kernel name accepted := by
    unfold Accepted
    rw [writes.kernel]
    exact accepted
  outbox message member := ⟨message, writes.kept numbered message member, rfl, rfl, rfl⟩
  idle := idle

theorem idle_of_same (recoveries : after.recoveries = before.recoveries) (runId : Identifier)
    (idle : before.Idle runId) : after.Idle runId ∨
      ∀ message ∈ before.outbox, message.runId = runId → message.delivered = true := by
  refine Or.inl ?_
  unfold Idle
  rw [recoveries]
  exact idle

variable {row : ReopenRecord} {old new : FlushPhase}

theorem idle_of_put {stored : ReopenRecord} (member : stored ∈ before.recoveries)
    (follows : stored.Follows row) (recoveries : after.recoveries = before.recoveries.put row)
    (runId : Identifier) (idle : before.Idle runId) : after.Idle runId ∨
      ∀ message ∈ before.outbox, message.runId = runId → message.delivered = true := by
  refine Or.inl fun recovery written own => ?_
  rw [recoveries] at written
  obtain ⟨old, there, same⟩ := follows.of_put member recovery written
  by_contra running
  have active := same.active (eq_true_of_not_eq_false running)
  cases (idle old there (same.runId.symm.trans own)).symm.trans active

/-- The facts of a move about messages: it writes under one command, and reopens no Run with
messages pending. -/
theorem Move.writes (move : Move before after) :
    (∃ runId commandId, Writes runId commandId before after) ∧
      ∀ runId, before.Idle runId → after.Idle runId ∨
        ∀ message ∈ before.outbox, message.runId = runId → message.delivered = true := by
  cases move with
  | command runId commandId quiet runs recoveries commits writes =>
    exact ⟨⟨runId, commandId, writes⟩, idle_of_same recoveries⟩
  | sync runs recoveries commits silent =>
    exact ⟨⟨sampleName, sampleName, silent.writes _ _⟩, idle_of_same recoveries⟩
  | rewrite stored row member onward recoveries runs commits silent =>
    exact ⟨⟨row.runId, row.commandId, silent.writes _ _⟩,
      idle_of_put member onward.toFollows recoveries⟩
  | prepare row run fresh found idle settled status source target continues recoveries runs commits
      silent =>
    refine ⟨⟨row.runId, row.commandId, silent.writes _ _⟩, fun runId quiet => ?_⟩
    by_cases here : runId = row.runId
    · exact .inr (here ▸ settled)
    · refine Or.inl fun recovery written own => ?_
      rw [recoveries] at written
      rcases mem_put.mp written with rfl | ⟨old, _⟩
      · exact absurd own.symm here
      · exact quiet recovery old own
  | commit stored commit member onward active unmutated found made recoveries runs commits writes =>
    exact ⟨⟨_, _, writes⟩,
      idle_of_put member (onward.toFollows.committed active) recoveries⟩

theorem Move.grows (move : Move before after) (numbered : before.Numbered) : Grows before after := by
  obtain ⟨⟨runId, commandId, writes⟩, idle⟩ := move.writes
  exact writes.grows numbered idle

theorem Quiet.move (quiet : before.Quiet) (move : Move before after) : after.Quiet := by
  have grows := move.grows quiet.numbered
  obtain ⟨⟨runId, commandId, writes⟩, _⟩ := move.writes
  refine ⟨fun message member => ?_, fun message member delivered => ?_, ?_⟩
  · rcases writes.messages message member with old | ⟨_, _, _, _, numbered⟩
    · exact (quiet.numbered message old).trans writes.last
    · exact numbered
  · rcases writes.messages message member with old | ⟨_, _, pending, _⟩
    · exact grows.kernel _ (quiet.delivered message old delivered)
    · cases pending.symm.trans delivered
  · rw [writes.flushes]
    exact fun phase working => grows.certain quiet (quiet.flushes phase working)

/-! ### Flushes -/

theorem receive_kernel (state : Reopening) (message : OutboxRow) :
    ∀ name, state.Accepted name → (state.receive message).Accepted name := by
  rintro name ⟨admission, found⟩
  unfold receive
  cases looked : state.kernel.find? message.executionId with
  | some _ => exact ⟨admission, found⟩
  | none =>
    refine ⟨admission, ?_⟩
    refine (find?_put_other state.kernel ?_).trans found
    rintro rfl
    cases looked.symm.trans found

theorem receive_accepts (state : Reopening) (message : OutboxRow) :
    (state.receive message).Accepted message.executionId := by
  unfold receive
  cases looked : state.kernel.find? message.executionId with
  | some admission => exact ⟨admission, looked⟩
  | none => exact ⟨_, find?_put_same state.kernel ⟨message.executionId, _, _, _⟩⟩

theorem receive_same (state : Reopening) (message : OutboxRow) :
    (state.receive message).runs = state.runs ∧
      (state.receive message).recoveries = state.recoveries ∧
        (state.receive message).commands = state.commands ∧
          (state.receive message).commits = state.commits ∧
            (state.receive message).outbox = state.outbox ∧
              (state.receive message).lastSequence = state.lastSequence ∧
                (state.receive message).flushes = state.flushes := by
  unfold receive
  cases state.kernel.find? message.executionId with
  | some _ => exact ⟨rfl, rfl, rfl, rfl, rfl, rfl, rfl⟩
  | none => exact ⟨rfl, rfl, rfl, rfl, rfl, rfl, rfl⟩

variable {state : Reopening}

variable {message : OutboxRow}

variable {recovery : ReopenRecord}

theorem receive_held (due : state.Due message) (member : recovery ∈ state.recoveries)
    (active : recovery.status.active = true) {name : Identifier} {admission : Admission}
    (found : (state.receive message).kernel.find? name = some admission)
    (own : admission.runId = recovery.runId) : state.kernel.find? name = some admission := by
  unfold receive at found
  cases looked : state.kernel.find? message.executionId with
  | some _ =>
    rw [looked] at found
    exact found
  | none =>
    rw [looked] at found
    rcases due.2 with ⟨known, there⟩ | idle
    · cases looked.symm.trans there
    · rcases find?_eq_some_iff.mp found with ⟨written, rfl⟩
      rcases mem_put.mp written with rfl | ⟨old, _⟩
      · cases (idle recovery member own.symm).symm.trans active
      · exact find?_key old

variable {blocked : List Identifier}

variable {pending : List OutboxRow}

theorem mem_selectMessages {limit : ℕ} (member : message ∈ selectMessages blocked limit pending) :
    message ∈ pending ∧ message.runId ∉ blocked := by
  unfold selectMessages at member
  have selected := (mem_filter.mp (mem_of_mem_take member)).1
  have passed := mem_filter.mp selected
  exact ⟨passed.1, of_decide_eq_true passed.2⟩

theorem select_due (current : state.Current blocked) {limit : ℕ}
    (read : pending.Perm state.undelivered) :
    ∀ message ∈ selectMessages blocked limit pending, state.Due message := by
  intro message member
  obtain ⟨listed, free⟩ := mem_selectMessages member
  have unsent := mem_filter.mp (read.mem_iff.mp listed)
  have pending_ : message.delivered = false := by simpa using unsent.2
  refine ⟨⟨message, unsent.1, rfl, rfl, rfl⟩, Or.inr fun recovery there own => ?_⟩
  by_contra running
  have active := eq_true_of_not_eq_false running
  exact free (own ▸ current recovery there active message unsent.1 own.symm pending_)

/-! ### Runs of the protocol -/

variable {recoveryName : Identifier → Identifier → String → Identifier}
  {admits : Reopening → List Identifier → Prop}

/-- A step that touches no Run, no recovery and no receipt. -/
structure Still (before after : Reopening) : Prop where
  runs : after.runs = before.runs
  recoveries : after.recoveries = before.recoveries
  commands : after.commands = before.commands
  commits : after.commits = before.commits
  /-- No message is added. -/
  messages : ∀ message ∈ after.outbox, ∃ old ∈ before.outbox, old.sequence = message.sequence

theorem still_of_receive (state : Reopening) (message : OutboxRow) (flushes : List FlushPhase) :
    Still state { state.receive message with flushes } := by
  obtain ⟨runs, recoveries, commands, commits, outbox, _⟩ := state.receive_same message
  refine ⟨runs, recoveries, commands, commits, fun row member => ⟨row, ?_, rfl⟩⟩
  rw [← outbox]
  exact member

theorem still_of_outbox (flushes : List FlushPhase) (activating : List Identifier) :
    Still state { state with flushes, activating } :=
  ⟨rfl, rfl, rfl, rfl, fun message member => ⟨message, member, rfl⟩⟩

theorem mem_complete {sequence : ℕ} :
    message ∈ (state.complete sequence).outbox ↔ ∃ old ∈ state.outbox,
      (if old.sequence = sequence then { old with delivered := true } else old) = message :=
  @mem_update _ _ _ state.outbox message _ (fun row => by split <;> rfl)

theorem still_of_complete (state : Reopening) (sequence : ℕ) (flushes : List FlushPhase) :
    Still state { state.complete sequence with flushes } := by
  refine ⟨rfl, rfl, rfl, rfl, fun message member => ?_⟩
  obtain ⟨old, there, rfl⟩ := mem_complete.mp member
  refine ⟨old, there, ?_⟩
  split <;> rfl

theorem Step.moves (unfinished : before.Unfinished)
    (step : Step recoveryName admits before after) : Move before after ∨ Still before after := by
  cases step with
  | create runId commandId digest input definition after passed =>
    exact .inl (createRun_moves passed)
  | apply stack runId commandId digest expectedRevision expectedGeneration operations
      applicationState after passed => exact .inl (applyCommand_moves passed)
  | acknowledge runId commandId digest expectedRevision expectedGeneration after passed =>
    exact .inl (acknowledgeEvents_moves passed)
  | continue_ runId nextRunId commandId digest expectedRevision expectedGeneration input after
      passed => exact .inl (continueRun_moves passed)
  | sync snapshot after passed => exact .inl (syncExecution_moves passed)
  | prepare request requestDigest external now leaseUntil after passed =>
    exact .inl (prepareRecovery_moves passed)
  | advance stack external recoveryId ownerId now leaseUntil after passed =>
    exact .inl (advanceRecovery_moves unfinished passed)
  | activate recoveryId now earlier later after working passed =>
    exact .inl (activateRecovery_moves passed)
  | abandon recoveryId earlier later working => exact .inr (still_of_outbox _ _)
  | abort recoveryId ownerId now after passed => exact .inl (abortRecovery_moves passed)
  | renew recoveryId ownerId now leaseUntil after passed =>
    exact .inl (renewRecovery_moves passed)
  | begin => exact .inr (still_of_outbox _ _)
  | select earlier later blocked limit pending working admitted read =>
    exact .inr (still_of_outbox _ _)
  | submit earlier later message rest working => exact .inr (still_of_receive before message _)
  | lose earlier later message rest working => exact .inr (still_of_receive before message _)
  | refuse earlier later message rest working => exact .inr (still_of_outbox _ _)
  | finish earlier later message rest working =>
    exact .inr (still_of_complete before message.sequence _)
  | pass earlier later message rest working => exact .inr (still_of_outbox _ _)
  | crash earlier later phase working => exact .inr (still_of_outbox _ _)

theorem Sound.step (sound : before.Sound) (step : Step recoveryName admits before after) :
    after.Sound := by
  rcases step.moves sound.unfinished with move | still
  · exact sound.move move
  · exact sound.keep (still.runs ▸ .refl _) still.recoveries still.commits

theorem sound (reachable : (reopening recoveryName admits).Reachable state) : state.Sound := by
  refine reachable.invariant Sound ?_ fun _ _ _ sound step => Sound.step sound step
  rintro state ⟨runs, _, _, _, _, recoveries, _, _, _, _, commits⟩
  refine ⟨?_, ?_, ?_, ?_, ?_, ?_, ?_, ?_, ?_⟩
  · rw [recoveries]
    rintro _ ⟨⟩
  · unfold Unfinished
    rw [recoveries]
    rintro _ ⟨⟩
  · rw [recoveries]
    rintro _ ⟨⟩
  · rw [recoveries]
    rintro _ ⟨⟩
  · rw [recoveries]
    rintro _ ⟨⟩
  · rw [runs]
    rintro name run ⟨⟩
  · rw [commits]
    exact nodup_nil
  · rw [commits]
    rintro _ ⟨⟩
  · rw [recoveries]
    rintro _ ⟨⟩

/-! ### What flushes rely on -/

variable {earlier later phases : List FlushPhase}

theorem mem_turned (working : phases = earlier ++ old :: later)
    (member : phase ∈ earlier ++ new :: later) : phase = new ∨ phase ∈ phases := by
  rw [working, mem_append, mem_cons]
  rcases mem_append.mp member with first | last
  · exact .inr (.inl first)
  · rcases mem_cons.mp last with same | rest
    · exact .inl same
    · exact .inr (.inr (.inr rest))

theorem mem_left (working : phases = earlier ++ old :: later) (member : phase ∈ earlier ++ later) :
    phase ∈ phases := by
  rw [working, mem_append, mem_cons]
  rcases mem_append.mp member with first | last
  · exact .inl first
  · exact .inr (.inr last)

theorem Quiet.working (quiet : before.Quiet)
    (working : before.flushes = earlier ++ phase :: later) : before.Certain phase :=
  quiet.flushes phase (working ▸ mem_append_right earlier mem_cons_self)

theorem Quiet.next (quiet : before.Quiet)
    (working : before.flushes = earlier ++ old :: later) (grows : Grows before after)
    (last : after.lastSequence = before.lastSequence)
    (outbox : ∀ message ∈ after.outbox, ∃ stored ∈ before.outbox,
      stored.sequence = message.sequence ∧
        (message.delivered = true → after.Accepted message.executionId))
    (flushes : after.flushes = earlier ++ new :: later) (certain : after.Certain new) :
    after.Quiet := by
  refine ⟨fun message member => ?_, fun message member => ?_, fun phase member => ?_⟩
  · obtain ⟨stored, there, same, _⟩ := outbox message member
    rw [← same, last]
    exact quiet.numbered stored there
  · obtain ⟨_, _, _, known⟩ := outbox message member
    exact known
  · rw [flushes] at member
    rcases mem_turned working member with rfl | there
    · exact certain
    · exact grows.certain quiet (quiet.flushes phase there)

theorem grows_of_receive (state : Reopening) (message : OutboxRow) (flushes : List FlushPhase) :
    Grows state { state.receive message with flushes } := by
  obtain ⟨_, recoveries, _, _, outbox, _⟩ := state.receive_same message
  refine ⟨receive_kernel state message, fun row member => ⟨row, ?_, rfl, rfl, rfl⟩,
    idle_of_same recoveries⟩
  show row ∈ (state.receive message).outbox
  rw [outbox]
  exact member

theorem grows_of_complete (state : Reopening) (sequence : ℕ) (flushes : List FlushPhase) :
    Grows state { state.complete sequence with flushes } := by
  refine ⟨fun _ => id, fun row member => ⟨_, mem_complete.mpr ⟨row, member, rfl⟩, ?_⟩,
    idle_of_same rfl⟩
  split <;> exact ⟨rfl, rfl, rfl⟩

theorem Quiet.untouched (quiet : before.Quiet) (grows : Grows before after)
    (outbox : after.outbox = before.outbox) : ∀ message ∈ after.outbox,
      ∃ stored ∈ before.outbox, stored.sequence = message.sequence ∧
        (message.delivered = true → after.Accepted message.executionId) := by
  rw [outbox]
  exact fun message member => ⟨message, member, rfl, fun delivered =>
    grows.kernel _ (quiet.delivered message member delivered)⟩

theorem Quiet.step (sound : before.Sound) (quiet : before.Quiet)
    (step : Step recoveryName Current before after) : after.Quiet := by
  have same : ∀ flushes activating, Grows before { before with flushes, activating } :=
    fun _ _ => grows_of_same rfl rfl rfl
  cases step with
  | create runId commandId digest input definition after passed =>
    exact quiet.move (createRun_moves passed)
  | apply stack runId commandId digest expectedRevision expectedGeneration operations
      applicationState after passed => exact quiet.move (applyCommand_moves passed)
  | acknowledge runId commandId digest expectedRevision expectedGeneration after passed =>
    exact quiet.move (acknowledgeEvents_moves passed)
  | continue_ runId nextRunId commandId digest expectedRevision expectedGeneration input after
      passed => exact quiet.move (continueRun_moves passed)
  | sync snapshot after passed => exact quiet.move (syncExecution_moves passed)
  | prepare request requestDigest external now leaseUntil after passed =>
    exact quiet.move (prepareRecovery_moves passed)
  | advance stack external recoveryId ownerId now leaseUntil after passed =>
    exact quiet.move (advanceRecovery_moves sound.unfinished passed)
  | activate recoveryId now earlier later after working passed =>
    exact quiet.move (activateRecovery_moves passed)
  | abandon recoveryId earlier later working =>
    exact ⟨quiet.numbered, quiet.delivered, fun phase member =>
      (same before.flushes (earlier ++ later)).certain quiet (quiet.flushes phase member)⟩
  | abort recoveryId ownerId now after passed => exact quiet.move (abortRecovery_moves passed)
  | renew recoveryId ownerId now leaseUntil after passed =>
    exact quiet.move (renewRecovery_moves passed)
  | begin =>
    refine ⟨quiet.numbered, quiet.delivered, fun phase member => ?_⟩
    rcases mem_cons.mp member with rfl | old
    · trivial
    · exact (same _ before.activating).certain quiet (quiet.flushes phase old)
  | select earlier later blocked limit pending working admitted read =>
    have grows := same (earlier ++ .working (selectMessages blocked limit pending) :: later)
      before.activating
    refine quiet.next working grows rfl (quiet.untouched grows rfl) rfl fun message member => ?_
    exact grows.due quiet (select_due admitted read message member)
  | submit earlier later message rest working =>
    have due := quiet.working working
    have grows := grows_of_receive before message (earlier ++ .submitted message rest :: later)
    obtain ⟨_, _, _, _, outbox, last, _⟩ := before.receive_same message
    refine quiet.next working grows last (quiet.untouched grows outbox) rfl ⟨?_, ?_, ?_⟩
    · exact grows.queued (due message mem_cons_self).1
    · exact receive_accepts before message
    · exact fun other member => grows.due quiet (due other (mem_cons_of_mem message member))
  | lose earlier later message rest working =>
    have due := quiet.working working
    have grows := grows_of_receive before message (earlier ++ .working rest :: later)
    obtain ⟨_, _, _, _, outbox, last, _⟩ := before.receive_same message
    refine quiet.next working grows last (quiet.untouched grows outbox) rfl ?_
    exact fun other member => grows.due quiet (due other (mem_cons_of_mem message member))
  | refuse earlier later message rest working =>
    have due := quiet.working working
    have grows := same (earlier ++ .working rest :: later) before.activating
    refine quiet.next working grows rfl (quiet.untouched grows rfl) rfl ?_
    exact fun other member => grows.due quiet (due other (mem_cons_of_mem message member))
  | finish earlier later message rest working =>
    obtain ⟨⟨row, stored, sequence, _, execution⟩, known, due⟩ := quiet.working working
    have grows := grows_of_complete before message.sequence (earlier ++ .working rest :: later)
    refine quiet.next working grows rfl (fun written member => ?_) rfl
      fun other member => grows.due quiet (due other member)
    obtain ⟨old, there, rfl⟩ := mem_complete.mp member
    by_cases here : old.sequence = message.sequence
    · rw [if_pos here]
      -- The message is the one row with its sequence number.
      have one : old = row := eq_of_key_eq there stored (here.trans sequence.symm)
      refine ⟨old, there, rfl, fun _ => grows.kernel _ ?_⟩
      have named : old.executionId = message.executionId := one ▸ execution
      show before.Accepted old.executionId
      rw [named]
      exact known
    · rw [if_neg here]
      exact ⟨old, there, rfl, quiet.delivered old there⟩
  | pass earlier later message rest working =>
    have due := (quiet.working working).2.2
    have grows := same (earlier ++ .working rest :: later) before.activating
    exact quiet.next working grows rfl (quiet.untouched grows rfl) rfl
      fun other member => grows.due quiet (due other member)
  | crash earlier later phase working =>
    exact ⟨quiet.numbered, quiet.delivered, fun other member =>
      (same (earlier ++ later) before.activating).certain quiet
        (quiet.flushes other (mem_left working member))⟩

theorem quiet (reachable : (reopening recoveryName Current).Reachable state) : state.Quiet := by
  refine reachable.invariant Quiet ?_ fun _ _ before quiet step =>
    Quiet.step (sound before) quiet step
  rintro state ⟨_, _, _, _, outbox, _, _, _, _, flushes, _⟩
  refine ⟨?_, ?_, ?_⟩
  · unfold Numbered
    rw [outbox]
    rintro _ ⟨⟩
  · rw [outbox]
    rintro _ ⟨⟩
  · rw [flushes]
    rintro _ ⟨⟩

/-! ### The whole protocol -/

/-- While a Run is being reopened the Kernel accepts nothing for it, and only the recovery writes
receipts and messages. -/
structure Held (before after : Reopening) (recovery : ReopenRecord) : Prop where
  admissions : ∀ name admission, after.kernel.find? name = some admission →
    admission.runId = recovery.runId → before.kernel.find? name = some admission
  receipts : ∀ row ∈ after.commands, row.runId = recovery.runId →
    row ∈ before.commands ∨ row.commandId = recovery.commandId
  messages : ∀ message ∈ after.outbox, message.runId = recovery.runId →
    (∃ old ∈ before.outbox, old.sequence = message.sequence) ∨
      message.commandId = recovery.commandId

/-- What the protocol promises of a state and of what may follow. -/
structure Orderly (recoveryName : Identifier → Identifier → String → Identifier)
    (admits : Reopening → List Identifier → Prop) (state : Reopening) : Prop where
  /-- A Run has at most one recovery in preparation or committed. -/
  single : ∀ left ∈ state.recoveries, ∀ right ∈ state.recoveries, left.status.active = true →
    right.status.active = true → left.runId = right.runId → left = right
  /-- A recovery changes its Run at most once, -/
  once : (state.commits.map fun commit => commit.recovery.recoveryId).Nodup
  /-- in the revision and with the facts that it has checked, -/
  checked : ∀ commit ∈ state.commits, commit.Sound
  /-- and it has changed its Run if and only if it is committed or activated. -/
  mutated : ∀ recovery ∈ state.recoveries, recovery.status.mutated = true ↔
    ∃ commit ∈ state.commits, commit.recovery.recoveryId = recovery.recoveryId
  /-- The generation of a Run is the number of recoveries committed for it. -/
  generation : ∀ run ∈ state.runs, run.generation = state.commitsOf run.runId
  /-- A recovery that is aborted has not changed its Run and never will. -/
  aborted : ∀ recovery ∈ state.recoveries, recovery.status = .aborted → ∀ last,
    (reopening recoveryName admits).Run state last →
      ∀ commit ∈ last.commits, commit.recovery.recoveryId ≠ recovery.recoveryId
  /-- A Run is left alone while it is being reopened. -/
  held : ∀ next, Step recoveryName admits state next → ∀ recovery ∈ state.recoveries,
    recovery.status.active = true → Held state next recovery

theorem Sound.mutated_iff (sound : before.Sound) (member : recovery ∈ before.recoveries) :
    recovery.status.mutated = true ↔
      ∃ commit ∈ before.commits, commit.recovery.recoveryId = recovery.recoveryId := by
  refine ⟨sound.mutated recovery member, ?_⟩
  rintro ⟨commit, listed, same⟩
  obtain ⟨_, other, there, named, _, done⟩ := sound.logged commit listed
  have one : other = recovery := eq_of_key_eq there member (named.trans same)
  rw [← one]
  exact done

def StaysAborted (before after : Reopening) : Prop :=
  ∀ recovery ∈ before.recoveries, recovery.status = .aborted → ∃ later ∈ after.recoveries,
    later.recoveryId = recovery.recoveryId ∧ later.status = .aborted

theorem staysAborted_refl (state : Reopening) : StaysAborted state state :=
  fun recovery member aborted => ⟨recovery, member, rfl, aborted⟩

theorem staysAborted_put {recoveries : Table ReopenRecord.recoveryId}
    (member : recovery ∈ recoveries) (aborted : recovery.status = .aborted)
    (same : recovery.recoveryId = row.recoveryId → row.status = .aborted) :
    ∃ later ∈ recoveries.put row, later.recoveryId = recovery.recoveryId ∧
      later.status = .aborted := by
  by_cases here : recovery.recoveryId = row.recoveryId
  · exact ⟨row, mem_put.mpr (.inl rfl), here.symm, same here⟩
  · exact ⟨recovery, mem_put.mpr (.inr ⟨member, here⟩), rfl, aborted⟩

theorem Move.staysAborted (move : Move before after) : StaysAborted before after := by
  cases move with
  | command runId commandId quiet runs recoveries commits writes =>
    unfold StaysAborted
    rw [recoveries]
    exact staysAborted_refl before
  | sync runs recoveries commits silent =>
    unfold StaysAborted
    rw [recoveries]
    exact staysAborted_refl before
  | rewrite stored row member onward recoveries runs commits silent =>
    intro recovery there aborted
    rw [recoveries]
    refine staysAborted_put there aborted fun same => onward.aborted ?_
    have one : recovery = stored := eq_of_key_eq there member (same.trans onward.recoveryId)
    exact one ▸ aborted
  | prepare row run fresh found idle settled status source target continues recoveries runs commits
      silent =>
    intro recovery there aborted
    rw [recoveries]
    exact ⟨recovery, mem_put_of_fresh _ fresh there, rfl, aborted⟩
  | commit stored commit member onward active unmutated found made recoveries runs commits writes =>
    intro recovery there aborted
    rw [recoveries]
    refine staysAborted_put there aborted fun same => ?_
    have one : recovery = stored := eq_of_key_eq there member (same.trans onward.recoveryId)
    rw [← one, aborted] at active
    cases active

theorem aborted_run {last : Reopening} (reachable : (reopening recoveryName admits).Reachable state)
    (run : (reopening recoveryName admits).Run state last) : StaysAborted state last := by
  refine reachable.respects StaysAborted staysAborted_refl ?_ ?_ run
  · intro first second third early late recovery member aborted
    obtain ⟨middle, between, same, still⟩ := early recovery member aborted
    obtain ⟨final, ultimately, equal, ends⟩ := late middle between still
    exact ⟨final, ultimately, equal.trans same, ends⟩
  · intro first second between step
    rcases Step.moves (sound between).unfinished step with move | still
    · exact move.staysAborted
    · unfold StaysAborted
      rw [still.recoveries]
      exact staysAborted_refl first

/-- What a move writes for a Run that is being reopened it writes under the command of the
recovery. -/
theorem Move.held (sound : before.Sound) (move : Move before after)
    (member : recovery ∈ before.recoveries) (active : recovery.status.active = true) :
    Held before after recovery := by
  have own : ∃ runId commandId, Writes runId commandId before after ∧
      (runId = recovery.runId → before.commands = after.commands ∧ before.outbox = after.outbox ∨
        commandId = recovery.commandId) := by
    cases move with
    | command runId commandId quiet runs recoveries commits writes =>
      refine ⟨runId, commandId, writes, fun same => ?_⟩
      rcases quiet with idle | absent
      · cases (idle recovery member same.symm).symm.trans active
      · obtain ⟨run, found⟩ := sound.known recovery member
        cases (same ▸ absent).symm.trans found
    | sync runs recoveries commits silent =>
      exact ⟨recovery.runId, recovery.commandId, silent.writes _ _, fun _ => Or.inr rfl⟩
    | rewrite stored row there onward recoveries runs commits silent =>
      exact ⟨recovery.runId, recovery.commandId, silent.writes _ _, fun _ => Or.inr rfl⟩
    | prepare row run fresh found idle settled status source target continues recoveries runs
        commits silent =>
      exact ⟨recovery.runId, recovery.commandId, silent.writes _ _, fun _ => Or.inr rfl⟩
    | commit stored commit there onward running unmutated found made recoveries runs commits
        writes =>
      refine ⟨_, _, writes, fun same => Or.inr ?_⟩
      have one : stored = recovery := sound.single stored there recovery member running active
        (onward.runId.symm.trans same)
      rw [onward.commandId, one]
  obtain ⟨runId, commandId, writes, alike⟩ := own
  refine ⟨fun name admission found _ => ?_, fun row written same => ?_, fun message written same => ?_⟩
  · rw [writes.kernel] at found
    exact found
  · rcases writes.receipts row written with old | ⟨run, command⟩
    · exact .inl old
    · rcases alike (run.symm.trans same) with ⟨equal, _⟩ | here
      · exact .inl (equal ▸ written)
      · exact .inr (command.trans here)
  · rcases writes.messages message written with old | ⟨run, command, _⟩
    · exact .inl ⟨message, old, rfl⟩
    · rcases alike (run.symm.trans same) with ⟨_, equal⟩ | here
      · exact .inl ⟨message, equal ▸ written, rfl⟩
      · exact .inr (command.trans here)

theorem Still.held (still : Still before after)
    (admissions : ∀ name admission, after.kernel.find? name = some admission →
      admission.runId = recovery.runId → before.kernel.find? name = some admission) :
    Held before after recovery :=
  ⟨admissions, fun _ written _ => Or.inl (still.commands ▸ written),
    fun message written _ => Or.inl (still.messages message written)⟩

theorem Step.held (sound : before.Sound) (quiet : before.Quiet)
    (step : Step recoveryName admits before after) (member : recovery ∈ before.recoveries)
    (active : recovery.status.active = true) : Held before after recovery := by
  have alike : ∀ flushes activating,
      Held before { before with flushes, activating } recovery := fun flushes activating =>
    (still_of_outbox flushes activating).held fun _ _ found _ => found
  cases step with
  | submit earlier later message rest working =>
    exact (still_of_receive before message _).held fun name admission found own =>
      receive_held (quiet.working working message mem_cons_self) member active found own
  | lose earlier later message rest working =>
    exact (still_of_receive before message _).held fun name admission found own =>
      receive_held (quiet.working working message mem_cons_self) member active found own
  | abandon | begin | select | refuse | pass | crash => exact alike _ _
  | finish earlier later message rest working =>
    exact (still_of_complete before message.sequence _).held fun _ _ found _ => found
  | create runId commandId digest input definition after passed =>
    exact (createRun_moves passed).held sound member active
  | apply stack runId commandId digest expectedRevision expectedGeneration operations
      applicationState after passed => exact (applyCommand_moves passed).held sound member active
  | acknowledge runId commandId digest expectedRevision expectedGeneration after passed =>
    exact (acknowledgeEvents_moves passed).held sound member active
  | continue_ runId nextRunId commandId digest expectedRevision expectedGeneration input after
      passed => exact (continueRun_moves passed).held sound member active
  | sync snapshot after passed => exact (syncExecution_moves passed).held sound member active
  | prepare request requestDigest external now leaseUntil after passed =>
    exact (prepareRecovery_moves passed).held sound member active
  | advance stack external recoveryId ownerId now leaseUntil after passed =>
    exact (advanceRecovery_moves sound.unfinished passed).held sound member active
  | activate recoveryId now earlier later after working passed =>
    exact (activateRecovery_moves passed).held sound member active
  | abort recoveryId ownerId now after passed =>
    exact (abortRecovery_moves passed).held sound member active
  | renew recoveryId ownerId now leaseUntil after passed =>
    exact (renewRecovery_moves passed).held sound member active

/-- In every run in which no flush reads a message of a Run that began to be reopened after it read
the blocked Runs, the protocol keeps its promises. -/
theorem reopening_orderly {state : Reopening}
    (reachable : (reopening recoveryName Current).Reachable state) :
    Orderly recoveryName Current state where
  single := (sound reachable).single
  once := (sound reachable).once
  checked commit listed := ((sound reachable).logged commit listed).1
  mutated _ member := (sound reachable).mutated_iff member
  generation run member := (sound reachable).counted run.runId run (find?_key member)
  aborted recovery member aborted last run commit listed same := by
    obtain ⟨later, there, named, still⟩ := aborted_run reachable run recovery member aborted
    have done := ((sound (reachable.run run)).mutated_iff there).mpr
      ⟨commit, listed, same.trans named.symm⟩
    rw [still] at done
    cases done
  held _ step _ member active := Step.held (sound reachable) (quiet reachable) step member active

/-! ### Small examples -/

def sampleEmpty : Reopening where
  runs := ∅
  executions := ∅
  links := ∅
  commands := ∅
  outbox := ∅
  lastSequence := 0
  recoveries := ∅
  waiters := ∅
  kernel := ∅
  activating := []
  flushes := []
  commits := []

def sampleReopen : ReopenRequest where
  runId := sampleName
  commandId := sampleName
  expectedRevision := 1
  expectedGeneration := none
  operations := [.addTask sampleName sampleCommand none, .dispatch sampleName]
  applicationState := none
  authorized := false
  ownerId := sampleName

/-- A Run fails, a flush reads that nothing is being reopened, and the Run is reopened as far as the
commit of the recovery. -/
def sampleCommitted : Except SdkError Reopening := do
  let created ← sampleEmpty.createRun sampleName ⟨"create", by decide⟩ "" .null .null
  let failed ← created.applyCommand 1 sampleName ⟨"finish", by decide⟩ "" 0 none
    [.finish (.string "failed")] none
  let read := { failed with flushes := .begun failed.blockedRuns :: failed.flushes }
  let prepared ← read.prepareRecovery (fun _ _ _ => sampleName) sampleReopen "" [] 0 (10 : ℕ)
  prepared.advanceRecovery 1 [] sampleName none 1 (10 : ℕ)

theorem sampleCommitted_reachable {state : Reopening} (made : sampleCommitted = .ok state) :
    (reopening (fun _ _ _ => sampleName) admits).Reachable state := by
  obtain ⟨created, create, made⟩ := bind_eq_ok.mp made
  obtain ⟨failed, finish, made⟩ := bind_eq_ok.mp made
  obtain ⟨prepared, prepare, advance⟩ := bind_eq_ok.mp made
  have start : (reopening (fun _ _ _ => sampleName) admits).Reachable sampleEmpty :=
    .start ⟨rfl, rfl, rfl, rfl, rfl, rfl, rfl, rfl, rfl, rfl, rfl⟩
  exact ((((start.next (.create _ _ _ _ _ _ create)).next
    (.apply _ _ _ _ _ _ _ _ _ finish)).next .begin).next
      (.prepare _ _ _ _ _ _ prepare)).next (.advance _ _ _ _ _ _ _ advance)

/-- A Run that has been reopened once is in its second generation. -/
theorem reopening_orderly_sample : ∃ state,
    (reopening (fun _ _ _ => sampleName) Current).Reachable state ∧
      ∃ run ∈ state.runs, run.generation = 1 ∧ state.commitsOf run.runId = 1 := by
  have outcome : sampleCommitted.toOption.any (fun state =>
      state.runs.rows.any fun run => decide (run.generation = 1)) = true := by
    decide +kernel
  cases made : sampleCommitted with
  | error failure =>
    rw [made] at outcome
    cases outcome
  | ok state =>
    rw [made] at outcome
    obtain ⟨run, member, second⟩ := any_eq_true.mp outcome
    have reached := @sampleCommitted_reachable Current state made
    have counted := (reopening_orderly reached).generation run member
    exact ⟨state, reached, run, member, of_decide_eq_true second,
      counted.symm.trans (of_decide_eq_true second)⟩

/-- Whether a flush that has read no blocked Runs finds a message of a Run that is being reopened. -/
def sampleExposed (state : Reopening) : Bool :=
  match state.flushes, selectMessages [] 1 state.undelivered with
  | [.begun []], message :: _ =>
    (state.kernel.find? message.executionId).isNone && state.recoveries.rows.any fun recovery =>
      recovery.status.active && decide (recovery.runId = message.runId)
  | _, _ => false

/-- A flush may read which Runs are blocked before a recovery is prepared, and the messages of the
recovery before it is activated. -/
theorem reopening_exposed : ¬ ∀ state,
    (reopening (fun _ _ _ => sampleName) fun _ _ => True).Reachable state →
      Orderly (fun _ _ _ => sampleName) (fun _ _ => True) state := by
  intro promised
  have outcome : sampleCommitted.toOption.any sampleExposed = true := by
    decide +kernel
  cases made : sampleCommitted with
  | error failure =>
    rw [made] at outcome
    cases outcome
  | ok state =>
    rw [made] at outcome
    change sampleExposed state = true at outcome
    unfold sampleExposed at outcome
    split at outcome
    · rename_i message rest flushes selected
      obtain ⟨unknown, reopened⟩ := and_eq_true_iff.mp outcome
      obtain ⟨recovery, member, facts⟩ := any_eq_true.mp reopened
      obtain ⟨active, same⟩ := and_eq_true_iff.mp facts
      have read := (@sampleCommitted_reachable (fun _ _ => True) state made).next
        (.select [] [] [] 1 state.undelivered flushes trivial (.refl _))
      have held := (promised _ read).held _ (.submit [] [] message rest (by rw [selected]))
        recovery member active
      have absent := Option.isNone_iff_eq_none.mp unknown
      have accepted : (state.receive message).kernel.find? message.executionId = some
          ⟨message.executionId, message.runId, message.generation, message.intent.isCancel⟩ := by
        unfold receive
        rw [absent]
        exact find?_put_same state.kernel
          ⟨message.executionId, message.runId, message.generation, message.intent.isCancel⟩
      refine absurd (held.admissions message.executionId
        ⟨message.executionId, message.runId, message.generation, message.intent.isCancel⟩ ?_
          (of_decide_eq_true same).symm) ?_
      · unfold receive at accepted ⊢
        dsimp only
        rw [absent] at accepted ⊢
        exact accepted
      · intro there
        cases absent.symm.trans there
    · cases outcome

end Reopening

end DispatcherSdk.Orchestrator
