/-
This file proves that collecting notifications reports every event of a watched execution
that calls for a notice, up to the terminal one, and reports it once.

An event of the watched execution is only ever skipped while the attempt is not dispatched, and
a page that holds such an event has had the projection brought up to date before it is
committed.
-/

import DispatcherSdk.Orchestrator.Notifications

namespace DispatcherSdk.Orchestrator

open Library Library.Checked Table Relation List Function
open ExecutionKernel hiding ExecutionRow OutboxRow Operation EventRow

/-! ### Lists of operations that register watches -/

variable {stack generation : ℕ}

variable {operation : Operation}

variable {after reached : Reduction × Table Watch.key} {before : Table Watch.key}
  {event : ExecutionKernel.EventRow}

theorem applyWatched_eq_ok {before : Reduction × Table Watch.key}
    (applied : applyWatched stack generation before operation = .ok after) :
    applyOperation stack generation before.1 operation = .ok after.1 ∧
      (after.2 = before.2 ∨ ∃ taskId watchId target maxDeliveries,
        registerWatch before.1.run before.2 taskId watchId target maxDeliveries = .ok after.2) := by
  unfold applyWatched at applied
  obtain ⟨reduction, reduced, applied⟩ := bind_eq_ok.mp applied
  cases operation with
  | watchTask taskId watchId target maxDeliveries =>
    obtain ⟨watches, registered, answered⟩ := bind_eq_ok.mp applied
    cases answered
    exact ⟨reduced, Or.inr ⟨taskId, watchId, target, maxDeliveries, registered⟩⟩
  | addTask | setDependencies | dispatch | newAttempt | cancel | wait | signal | releaseWait
  | finish =>
    cases applied
    exact ⟨reduced, Or.inl rfl⟩

variable {operations : List Operation}

theorem applyWatched_reduction {before : Reduction × Table Watch.key}
    (applied : operations.foldlM (applyWatched stack generation) before = .ok after) :
    operations.foldlM (applyOperation stack generation) before.1 = .ok after.1 := by
  induction operations generalizing before with
  | nil =>
    cases applied
    rfl
  | cons operation rest hypothesis =>
    rw [foldlM_cons] at applied ⊢
    obtain ⟨middle, first, others⟩ := bind_eq_ok.mp applied
    exact bind_eq_ok.mpr ⟨middle.1, (applyWatched_eq_ok first).1, hypothesis others⟩

theorem applyOperation_prefix {before after : Reduction}
    (applied : applyOperation stack generation before operation = .ok after) (name : Identifier) :
    before.run.commandsOf name <+: after.run.commandsOf name := by
  rcases applyOperation_reduced applied with rfl | ⟨answer, accepted, recorded⟩
  · exact prefix_refl _
  · rw [(recordOperation_commands recorded).2.1 name, (reduceOperation_commands accepted name).2]
    exact prefix_append _ _

/-- A watch that a list of operations has registered. -/
structure Watch.New (watch : Watch) (run : RunSnapshot) (before : Table Watch.key)
    (reached : RunSnapshot) : Prop where
  fresh : before.find? watch.key = none
  runId : watch.runId = run.runId
  cursor : watch.cursor = 0
  pending : watch.completed = false
  bound : ∃ command, (reached.commandsOf watch.taskId)[watch.attempt]? = some command ∧
    command.executionId = watch.executionId

variable {run : RunSnapshot}

theorem registerWatch_new {after : Table Watch.key} {taskId watchId : Identifier}
    {target : Json} {maxDeliveries : Option Json}
    (registered : registerWatch run before taskId watchId target maxDeliveries = .ok after) :
    ∃ watch : Watch, watch.New run before run ∧ after = before.put watch := by
  unfold registerWatch at registered
  simp only [passes_iff] at registered
  obtain ⟨_, _, ⟨task, current⟩, looked, maximum, _, _, absent, answered⟩ := registered
  obtain ⟨stored, found, ends⟩ := currentAttempt_found looked
  cases answered
  refine ⟨_, ?_, rfl⟩
  refine ⟨Option.isNone_iff_eq_none.mp absent, rfl, rfl, rfl, current.command, ?_, rfl⟩
  have named : task.taskId = taskId := key_of_find? stored
  dsimp only at found ends ⊢
  rw [← named, RunSnapshot.commandsOf_found found, List.getElem?_map, getElem?_of_getLast? ends]
  rfl

/-- The watches of a list of operations: the ones that were there, and new ones. -/
structure WatchesGrow (run : RunSnapshot) (before : Table Watch.key)
    (reached : Reduction × Table Watch.key) : Prop where
  sameRun : run.SameRun reached.1.run
  kept : ∀ watch ∈ before, watch ∈ reached.2
  new : ∀ watch ∈ reached.2, watch ∈ before ∨ watch.New run before reached.1.run

theorem applyWatched_grow {next : Reduction × Table Watch.key}
    (grown : WatchesGrow run before reached)
    (applied : applyWatched stack generation reached operation = .ok next) :
    WatchesGrow run before next := by
  obtain ⟨reduced, watches⟩ := applyWatched_eq_ok applied
  have sameRun : run.SameRun next.1.run :=
    ⟨(applyOperation_sameRun reduced).1.trans grown.sameRun.1,
      (applyOperation_sameRun reduced).2.trans grown.sameRun.2⟩
  have carried {watch : Watch} {command : ExecutionCommand}
      (listed : (reached.1.run.commandsOf watch.taskId)[watch.attempt]? = some command) :
      (next.1.run.commandsOf watch.taskId)[watch.attempt]? = some command := by
    obtain ⟨rest, same⟩ := applyOperation_prefix reduced watch.taskId
    obtain ⟨bound, _⟩ := List.getElem?_eq_some_iff.mp listed
    rw [← same, List.getElem?_append_left bound]
    exact listed
  have old : ∀ watch ∈ reached.2, watch ∈ before ∨ watch.New run before next.1.run := by
    intro watch member
    refine (grown.new watch member).imp_right fun new => ?_
    obtain ⟨command, listed, same⟩ := new.bound
    exact ⟨new.fresh, new.runId, new.cursor, new.pending, command, carried listed, same⟩
  rcases watches with same | ⟨taskId, watchId, target, maxDeliveries, registered⟩
  · rw [show next = (next.1, next.2) from rfl, same]
    exact ⟨sameRun, grown.kept, old⟩
  · obtain ⟨added, new, same⟩ := registerWatch_new registered
    rw [show next = (next.1, next.2) from rfl, same]
    refine ⟨sameRun, fun watch member => mem_put_of_fresh _ new.fresh (grown.kept watch member),
      fun watch member => ?_⟩
    rcases mem_put.mp member with rfl | ⟨stored, _⟩
    · obtain ⟨command, listed, same⟩ := new.bound
      refine Or.inr ⟨?_, new.runId.trans grown.sameRun.1, new.cursor, new.pending, command,
        carried listed, same⟩
      rw [find?_eq_none_iff]
      exact fun other member =>
        find?_eq_none_iff.mp new.fresh other (grown.kept other member)
    · exact old watch stored

theorem applyWatchedOperations_grow
    (applied : applyWatchedOperations stack generation run before operations = .ok reached) :
    applyOperations stack generation run operations = .ok reached.1 ∧
      WatchesGrow run before reached :=
  ⟨applyWatched_reduction applied, foldlM_keeps (WatchesGrow run before) applyWatched_grow
      ⟨⟨rfl, rfl⟩, fun _ => id, fun _ => Or.inl⟩ applied⟩

/-! ### What a page gives rise to -/

/-- The watch has to report the event: it is one of the execution, calls for a notice of this kind,
and comes no later than any terminal event of the execution. -/
structure Watch.Owes (watch : Watch) (rows : List ExecutionKernel.EventRow)
    (event : ExecutionKernel.EventRow) (kind : NoticeKind) : Prop where
  logged : event ∈ rows
  own : event.executionId = watch.executionId
  kind : noticeKind event = some kind
  first : ∀ ended ∈ rows, ended.executionId = watch.executionId →
    ended.toState.terminal = true → event.sequence ≤ ended.sequence

/-- An event with which the execution ends. -/
def Watch.Ends (watch : Watch) (event : ExecutionKernel.EventRow) : Prop :=
  event.executionId = watch.executionId ∧ event.toState.terminal = true

theorem noticeKind_terminal :
    noticeKind event = some .terminal ↔ event.toState.terminal = true := by
  unfold noticeKind
  split
  · simp_all
  · split <;> simp_all

variable {kind : NoticeKind}

/-- What is owed for a page is owed for its first event, or for the rest unless the first event is
terminal. -/
theorem Watch.owes_cons {watch : Watch} {first : ExecutionKernel.EventRow}
    {rest : List ExecutionKernel.EventRow}
    (ordered : (first :: rest).Pairwise fun earlier later => earlier.sequence < later.sequence) :
    watch.Owes (first :: rest) event kind ↔
      (event = first ∧ first.executionId = watch.executionId ∧ noticeKind first = some kind) ∨
        (¬ watch.Ends first ∧ watch.Owes rest event kind) := by
  have before := (pairwise_cons.mp ordered).1
  refine ⟨fun owes => ?_, ?_⟩
  · rcases mem_cons.mp owes.logged with rfl | later
    · exact .inl ⟨rfl, owes.own, owes.kind⟩
    · refine Or.inr ⟨fun ends => ?_, later, owes.own, owes.kind, fun ended member =>
        owes.first ended (mem_cons_of_mem _ member)⟩
      have bounded := owes.first first mem_cons_self ends.1 ends.2
      exact absurd (before event later) (not_lt.mpr bounded)
  · rintro (⟨rfl, own, kind⟩ | ⟨open_, owes⟩)
    · refine ⟨mem_cons_self, own, kind, fun ended member _ _ => ?_⟩
      rcases mem_cons.mp member with rfl | later
      · exact le_rfl
      · exact (before ended later).le
    · refine ⟨mem_cons_of_mem _ owes.logged, owes.own, owes.kind, fun ended member own past => ?_⟩
      rcases mem_cons.mp member with rfl | later
      · exact absurd ⟨own, past⟩ open_
      · exact owes.first ended later own past

section Queueing

variable {digest : List String → String} {watch : Watch} {now : Timestamp}

/-- The row of a notification that is queued. -/
def Watch.queued (watch : Watch) (payload : Notice) (now : Timestamp) : Notification where
  notificationId := payload.notificationId
  payload
  maxAttempts := watch.maxDeliveries
  nextAttemptAt := now

theorem queueNotification_spec (watch : Watch) (payload : Notice) (now : Timestamp)
    (notifications : Notifications) :
    (∀ row ∈ notifications, row ∈ queueNotification watch payload now notifications) ∧
      (∀ row ∈ queueNotification watch payload now notifications,
        row ∈ notifications ∨ row = watch.queued payload now) ∧
      ∃ row ∈ queueNotification watch payload now notifications,
        row.notificationId = payload.notificationId := by
  unfold queueNotification
  split
  · rename_i row found
    exact ⟨fun _ => id, fun _ => Or.inl, row, mem_of_find? found, key_of_find? found⟩
  · rename_i absent
    refine ⟨fun row member => mem_put_of_fresh _ absent member, fun row member => ?_, _,
      mem_put.mpr (.inl rfl), rfl⟩
    rcases mem_put.mp member with rfl | ⟨old, _⟩
    · exact .inr rfl
    · exact .inl old

structure Queues (digest : List String → String) (watch : Watch) (now : Timestamp)
    (events : List ExecutionKernel.EventRow) (before after : Notifications) : Prop where
  kept : ∀ row ∈ before, row ∈ after
  new : ∀ row ∈ after, row ∈ before ∨ ∃ event kind, watch.Owes events event kind ∧
    row = watch.queued (watch.notice digest event kind) now
  reported : ∀ event kind, watch.Owes events event kind →
    ∃ row ∈ after, row.notificationId = watch.notificationId digest (.recorded event)

theorem queueEvents_queues {dispatched : Bool} {events : List ExecutionKernel.EventRow}
    (ordered : events.Pairwise fun earlier later => earlier.sequence < later.sequence)
    (known : ∀ event ∈ events, event.executionId = watch.executionId → dispatched = true)
    (notifications : Notifications) :
    let queued := queueEvents digest watch dispatched now events notifications
    Queues digest watch now events notifications queued.1 ∧
      (queued.2 = true ↔ ∃ event ∈ events, watch.Ends event) := by
  induction events generalizing notifications with
  | nil =>
    refine ⟨⟨fun _ => id, fun _ => Or.inl, fun event kind owes => ?_⟩, nofun, ?_⟩
    · cases owes.logged
    · rintro ⟨_, ⟨⟩, _⟩
  | cons event rest hypothesis =>
    have others := hypothesis (pairwise_cons.mp ordered).2
      fun later member => known later (mem_cons_of_mem _ member)
    -- What is owed for the rest is all that is owed, if the first event calls for nothing.
    have skipped (silent : ∀ kind, ¬ (event.executionId = watch.executionId ∧
        noticeKind event = some kind)) :
        let queued := queueEvents digest watch dispatched now rest notifications
        Queues digest watch now (event :: rest) notifications queued.1 ∧
          (queued.2 = true ↔ ∃ later ∈ event :: rest, watch.Ends later) := by
      have open_ : ¬ watch.Ends event := fun ends =>
        silent .terminal ⟨ends.1, noticeKind_terminal.mpr ends.2⟩
      have same (later : ExecutionKernel.EventRow) (kind : NoticeKind) :
          watch.Owes (event :: rest) later kind ↔ watch.Owes rest later kind := by
        rw [Watch.owes_cons ordered]
        exact ⟨fun owes => owes.elim (fun here => absurd here.2 (silent kind)) (·.2),
          fun owes => Or.inr ⟨open_, owes⟩⟩
      obtain ⟨⟨kept, new, reported⟩, done⟩ := others notifications
      refine ⟨⟨kept, fun row member => ?_, fun later kind owes =>
        reported later kind ((same later kind).mp owes)⟩, ?_⟩
      · refine (new row member).imp_right ?_
        rintro ⟨later, kind, owes, built⟩
        exact ⟨later, kind, (same later kind).mpr owes, built⟩
      · rw [done]
        simp only [mem_cons, exists_eq_or_imp, open_, false_or]
    unfold queueEvents
    split
    · rename_i foreign
      refine skipped fun kind here => ?_
      rcases foreign with other | undispatched
      · exact other here.1
      · exact absurd (known event mem_cons_self here.1) (by rw [undispatched]; exact nofun)
    · rename_i own
      rw [not_or, not_not] at own
      split
      · rename_i silent
        refine skipped fun kind here => ?_
        rw [silent] at here
        cases here.2
      · rename_i kind calls
        obtain ⟨keptFirst, newFirst, reportedFirst⟩ :=
          queueNotification_spec watch (watch.notice digest event kind) now notifications
        dsimp only
        split
        · rename_i terminal
          subst terminal
          have ends : watch.Ends event := ⟨own.1, noticeKind_terminal.mp calls⟩
          refine ⟨⟨keptFirst, fun row member => ?_, fun later kind owes => ?_⟩,
            fun _ => ⟨event, mem_cons_self, ends⟩, fun _ => rfl⟩
          · refine (newFirst row member).imp_right fun built => ⟨event, .terminal, ?_, built⟩
            exact (Watch.owes_cons ordered).mpr (.inl ⟨rfl, own.1, calls⟩)
          · rcases (Watch.owes_cons ordered).mp owes with ⟨rfl, _⟩ | ⟨open_, _⟩
            · exact reportedFirst
            · exact absurd ends open_
        · rename_i recovery
          have open_ : ¬ watch.Ends event := by
            intro ends
            rw [noticeKind_terminal.mpr ends.2] at calls
            exact recovery (Option.some.inj calls).symm
          obtain ⟨⟨kept, new, reported⟩, done⟩ :=
            others (queueNotification watch (watch.notice digest event kind) now notifications)
          refine ⟨⟨fun row member => kept row (keptFirst row member), fun row member => ?_,
            fun later kind' owes => ?_⟩, ?_⟩
          · rcases new row member with early | ⟨later, kind', owes, built⟩
            · refine (newFirst row early).imp_right fun built => ⟨event, kind, ?_, built⟩
              exact (Watch.owes_cons ordered).mpr (.inl ⟨rfl, own.1, calls⟩)
            · exact .inr ⟨later, kind', (Watch.owes_cons ordered).mpr (.inr ⟨open_, owes⟩),
                built⟩
          · rcases (Watch.owes_cons ordered).mp owes with ⟨rfl, _⟩ | ⟨_, owes⟩
            · obtain ⟨row, member, same⟩ := reportedFirst
              exact ⟨row, kept row member, same⟩
            · exact reported later kind' owes
          · rw [done]
            simp only [mem_cons, exists_eq_or_imp, open_, false_or]

end Queueing
/-! ### Pages of the log -/

namespace EventLog

variable {log : EventLog} {cursor : ℕ} {events : List ExecutionKernel.EventRow}

def through (cursor : ℕ) (events : List ExecutionKernel.EventRow) : ℕ :=
  (events.getLast?.map (·.sequence)).getD cursor

/-- The page begins behind the cursor and leaves nothing out. -/
def Page (log : EventLog) (cursor : ℕ) (events : List ExecutionKernel.EventRow) : Prop :=
  events <+: log.rows.filter fun event => cursor < event.sequence

theorem page_eventsSince (log : EventLog) (cursor limit : ℕ) :
    log.Page cursor (log.eventsSince cursor limit) :=
  take_prefix limit _

section

variable (page : log.Page cursor events)

include page

theorem Page.mem (member : event ∈ events) : event ∈ log.rows ∧ cursor < event.sequence := by
  have kept := page.subset member
  rw [mem_filter] at kept
  exact ⟨kept.1, of_decide_eq_true kept.2⟩

theorem Page.ordered : events.Pairwise fun earlier later => earlier.sequence < later.sequence :=
  (log.ordered.sublist filter_sublist).sublist page.sublist

theorem Page.le_through (member : event ∈ events) : event.sequence ≤ through cursor events := by
  unfold through
  have nonempty := ne_nil_of_mem member
  rw [List.getLast?_eq_some_getLast nonempty]
  show event.sequence ≤ (events.getLast nonempty).sequence
  have parts := dropLast_append_getLast nonempty
  have ordered := page.ordered
  rw [← parts] at ordered member
  rcases mem_append.mp member with first | last
  · exact ((pairwise_append.mp ordered).2.2 event first _ (mem_singleton_self _)).le
  · rw [mem_singleton.mp last]

theorem Page.cursor_le : cursor ≤ through cursor events := by
  unfold through
  cases last : events.getLast? with
  | none => exact le_rfl
  | some event => exact (page.mem (mem_of_getLast? last)).2.le

theorem Page.complete (member : event ∈ log.rows)
    (beyond : cursor < event.sequence) (within : event.sequence ≤ through cursor events) :
    event ∈ events := by
  obtain ⟨rest, parts⟩ := page
  have kept : event ∈ events ++ rest := by
    rw [parts, mem_filter]
    exact ⟨member, decide_eq_true beyond⟩
  rcases mem_append.mp kept with inside | outside
  · exact inside
  · have ordered := log.ordered.sublist (filter_sublist (p := fun event => cursor < event.sequence))
    rw [← parts] at ordered
    unfold through at within
    cases last : events.getLast? with
    | none =>
      rw [last] at within
      exact absurd beyond (not_lt.mpr within)
    | some final =>
      rw [last] at within
      have later := (pairwise_append.mp ordered).2.2 final (mem_of_getLast? last) event
        outside
      exact absurd later (not_lt.mpr within)

/-- Behind a cursor that no terminal event of the execution has reached, the log owes what the page
owes. -/
theorem Page.owes {watch : Watch}
    (pending : ∀ event ∈ log.rows, watch.Ends event → cursor < event.sequence)
    :
    watch.Owes events event kind ↔ watch.Owes log.rows event kind ∧ cursor < event.sequence ∧
      event.sequence ≤ through cursor events := by
  refine ⟨fun owes => ?_, fun ⟨owes, beyond, within⟩ => ?_⟩
  · obtain ⟨logged, beyond⟩ := page.mem owes.logged
    have within := page.le_through owes.logged
    refine ⟨⟨logged, owes.own, owes.kind, fun ended member own past => ?_⟩, beyond, within⟩
    by_cases inside : ended.sequence ≤ through cursor events
    · exact owes.first ended (page.complete member (pending ended member ⟨own, past⟩) inside) own past
    · exact within.trans (not_le.mp inside).le
  · exact ⟨page.complete owes.logged beyond within, owes.own, owes.kind,
      fun ended member => owes.first ended (page.mem member).1⟩

end

variable {later : EventLog}

variable {old : ExecutionKernel.EventRow}

theorem appended_beyond (appended : later.rows = log.rows ++ [event]) (member : old ∈ log.rows) :
    old.sequence < event.sequence := by
  have ordered := later.ordered
  rw [appended] at ordered
  exact (pairwise_append.mp ordered).2.2 old member event (mem_singleton_self _)

theorem Page.append (page : log.Page cursor events) (appended : later.rows = log.rows ++ [event]) :
    later.Page cursor events := by
  unfold Page
  rw [appended, filter_append]
  exact page.trans (prefix_append _ _)

theorem owes_append (appended : later.rows = log.rows ++ [event])
    (beyond : cursor < event.sequence) {watch : Watch} (within : old.sequence ≤ cursor) :
    watch.Owes later.rows old kind ↔ watch.Owes log.rows old kind := by
  rw [appended]
  refine ⟨fun owes => ?_, fun owes => ?_⟩
  · have logged : old ∈ log.rows := by
      rcases mem_append.mp owes.logged with inside | new
      · exact inside
      · rw [mem_singleton.mp new] at within
        exact absurd beyond (not_lt.mpr within)
    exact ⟨logged, owes.own, owes.kind, fun ended member =>
      owes.first ended (mem_append_left _ member)⟩
  · refine ⟨mem_append_left _ owes.logged, owes.own, owes.kind, fun ended member own past => ?_⟩
    rcases mem_append.mp member with inside | new
    · exact owes.first ended inside own past
    · rw [mem_singleton.mp new]
      exact within.trans beyond.le

end EventLog

/-! ### What never changes again -/

namespace Watching

/-- The attempt of the watch has been dispatched. -/
def Dispatched (state : Watching) (watch : Watch) : Prop :=
  ∃ attempt, state.attemptOf watch = .ok attempt ∧ attempt.dispatched = true

/-- The attempt of the watch was cancelled while it was planned. -/
def CalledOff (state : Watching) (watch : Watch) : Prop :=
  ∃ attempt, state.attemptOf watch = .ok attempt ∧ attempt.dispatched = false ∧
    attempt.state = .cancelled

/-- Every attempt stays, and goes on as attempts do. -/
def AttemptsKept (before after : Watching) : Prop :=
  ∀ watch attempt, before.attemptOf watch = .ok attempt →
    ∃ later, after.attemptOf watch = .ok later ∧ AttemptKept attempt later

variable {before after : Watching} {watch : Watch}

theorem AttemptsKept.dispatched (kept : AttemptsKept before after)
    (dispatched : before.Dispatched watch) : after.Dispatched watch := by
  obtain ⟨attempt, found, sent⟩ := dispatched
  obtain ⟨later, again, goes⟩ := kept watch attempt found
  exact ⟨later, again, (goes.record sent).1⟩

theorem AttemptsKept.calledOff (kept : AttemptsKept before after)
    (calledOff : before.CalledOff watch) : after.CalledOff watch := by
  obtain ⟨attempt, found, unsent, cancelled⟩ := calledOff
  obtain ⟨later, again, goes⟩ := kept watch attempt found
  have same : later = attempt := goes.terminal (by rw [cancelled]; rfl)
  subst same
  exact ⟨later, again, unsent, cancelled⟩

theorem Dispatched.not_calledOff {state : Watching}
    (dispatched : state.Dispatched watch) : ¬ state.CalledOff watch := by
  rintro ⟨attempt, found, unsent, _⟩
  obtain ⟨same, again, sent⟩ := dispatched
  rw [found] at again
  cases again
  rw [sent] at unsent
  cases unsent

/-- Every Run stays under its name, and its tasks go on as tasks do. -/
def RunsKept (before after : Table RunSnapshot.runId) : Prop :=
  ∀ runId run, before.find? runId = some run →
    ∃ later, after.find? runId = some later ∧ TasksKept run.tasks later.tasks

theorem RunsKept.attempts (kept : RunsKept before.runs after.runs) : AttemptsKept before after := by
  intro watch attempt found
  unfold attemptOf at found ⊢
  simp only [bind_eq_ok, present_eq_ok] at found ⊢
  obtain ⟨run, stored, task, named, listed⟩ := found
  obtain ⟨run', stored', tasks⟩ := kept watch.runId run stored
  obtain ⟨task', named', goes⟩ := tasks watch.taskId task named
  obtain ⟨attempt', listed', kept'⟩ := goes.attempts watch.attempt attempt listed
  exact ⟨attempt', ⟨run', stored', task', named', listed'⟩, kept'⟩

theorem RunsKept.refl (runs : Table RunSnapshot.runId) : RunsKept runs runs :=
  fun _ run found => ⟨run, found, .refl _⟩

theorem runsKept_put {runs : Table RunSnapshot.runId} {next : RunSnapshot}
    (replaced : ∀ run, runs.find? next.runId = some run → TasksKept run.tasks next.tasks) :
    RunsKept runs (runs.put next) := by
  intro runId run found
  rw [find?_put]
  by_cases own : runId = next.runId
  · rw [if_pos own]
    exact ⟨next, rfl, replaced run (own ▸ found)⟩
  · rw [if_neg own]
    exact ⟨run, found, .refl _⟩

end Watching
/-! ### The invariant of the collectors -/

/-- The columns of a watch that are never written again. -/
structure Watch.Same (watch other : Watch) : Prop where
  runId : other.runId = watch.runId
  watchId : other.watchId = watch.watchId
  taskId : other.taskId = watch.taskId
  executionId : other.executionId = watch.executionId
  attempt : other.attempt = watch.attempt
  generation : other.generation = watch.generation
  target : other.target = watch.target
  maxDeliveries : other.maxDeliveries = watch.maxDeliveries

namespace Watch.Same

variable {watch other third : Watch}

theorem refl (watch : Watch) : watch.Same watch := ⟨rfl, rfl, rfl, rfl, rfl, rfl, rfl, rfl⟩

theorem trans (left : watch.Same other) (right : other.Same third) : watch.Same third :=
  ⟨right.runId.trans left.runId, right.watchId.trans left.watchId,
    right.taskId.trans left.taskId, right.executionId.trans left.executionId,
    right.attempt.trans left.attempt, right.generation.trans left.generation,
    right.target.trans left.target, right.maxDeliveries.trans left.maxDeliveries⟩

section

variable (same : watch.Same other)

include same

theorem key : other.key = watch.key :=
  Prod.ext same.runId same.watchId

variable {event : ExecutionKernel.EventRow}

theorem owes {rows : List ExecutionKernel.EventRow} (owes : other.Owes rows event kind) :
    watch.Owes rows event kind := by
  obtain ⟨logged, own, calls, first⟩ := owes
  rw [same.executionId] at own
  simp only [same.executionId] at first
  exact ⟨logged, own, calls, first⟩

theorem symm : other.Same watch :=
  ⟨same.runId.symm, same.watchId.symm, same.taskId.symm, same.executionId.symm, same.attempt.symm,
    same.generation.symm, same.target.symm, same.maxDeliveries.symm⟩

theorem ends : other.Ends event ↔ watch.Ends event := by
  unfold Watch.Ends
  rw [same.executionId]

theorem notice (digest : List String → String) (event : ExecutionKernel.EventRow)
    (kind : NoticeKind) : other.notice digest event kind = watch.notice digest event kind := by
  unfold Watch.notice Watch.notificationId
  rw [same.runId, same.watchId, same.taskId, same.attempt, same.generation, same.target]

theorem cancellation (digest : List String → String) (reason : Option Identifier) :
    other.cancellation digest reason = watch.cancellation digest reason := by
  unfold Watch.cancellation Watch.notificationId
  rw [same.runId, same.watchId, same.taskId, same.executionId, same.attempt, same.generation,
    same.target]

theorem attemptOf (state : Watching) : state.attemptOf other = state.attemptOf watch := by
  unfold Watching.attemptOf
  rw [same.runId, same.taskId, same.attempt]

end

end Watch.Same

namespace Watching

/-- The watch is stored, whatever its cursor is by now. -/
def Stored (state : Watching) (watch : Watch) : Prop := ∃ current ∈ state.watches, watch.Same current

/-- What is certain of a collector at work. -/
def Certain (state : Watching) : Collector → Prop
  | .chosen watch => state.Stored watch
  | .paged watch events => state.Stored watch ∧ state.log.Page watch.cursor events
  | .synced watch events => state.Stored watch ∧ state.log.Page watch.cursor events ∧
      ∀ event ∈ events, event.executionId = watch.executionId → state.Dispatched watch

structure WatchSound (state : Watching) (watch : Watch) : Prop where
  registered : state.executions.Registers watch.executionId watch.runId watch.taskId watch.attempt
  pending : watch.completed = false →
    ∀ event ∈ state.log.rows, watch.Ends event → watch.cursor < event.sequence
  completed : watch.completed = true → state.CalledOff watch ∨
    ∃ event ∈ state.log.rows, watch.Ends event ∧ event.sequence ≤ watch.cursor
  dispatched : ∀ event ∈ state.log.rows, event.executionId = watch.executionId →
    event.sequence ≤ watch.cursor → state.Dispatched watch
  reached : watch.cursor = 0 ∨ ∃ event ∈ state.log.rows, event.sequence = watch.cursor

/-- The watch has reported every event that it owes up to its cursor. -/
def Reports (digest : List String → String) (state : Watching) (watch : Watch) : Prop :=
  ∀ event kind, watch.Owes state.log.rows event kind → event.sequence ≤ watch.cursor →
    ∃ row ∈ state.notifications, row.payload = watch.notice digest event kind

def Justified (digest : List String → String) (state : Watching) (row : Notification) : Prop :=
  row.notificationId = row.payload.notificationId ∧ ∃ watch ∈ state.watches,
    (∃ event kind, watch.Owes state.log.rows event kind ∧ event.sequence ≤ watch.cursor ∧
      row.payload = watch.notice digest event kind) ∨
    (watch.completed = true ∧ state.CalledOff watch ∧
      ∃ reason, row.payload = watch.cancellation digest reason)

structure Sound (digest : List String → String) (state : Watching) : Prop where
  runs : ∀ run ∈ state.runs, RunGraph run ∧ run.Registered state.executions
  watches : ∀ watch ∈ state.watches, state.WatchSound watch ∧ state.Reports digest watch
  queued : ∀ row ∈ state.notifications, state.Justified digest row
  collectors : ∀ collector ∈ state.collectors, state.Certain collector

variable {digest : List String → String} {before after : Watching}

/-! ### Steps that neither move a cursor nor append an event -/

/-- The log, the watches and the notifications stay, but for new watches. -/
structure Stays (before after : Watching) : Prop where
  log : after.log = before.log
  attempts : AttemptsKept before after
  executions : before.executions.Keeps after.executions
  watches : ∀ watch ∈ before.watches, watch ∈ after.watches
  notifications : after.notifications = before.notifications

section

variable (stays : Stays before after)

include stays

variable {watch : Watch}

theorem Stays.stored (stored : before.Stored watch) : after.Stored watch := by
  obtain ⟨current, member, same⟩ := stored
  exact ⟨current, stays.watches current member, same⟩

theorem Stays.certain {collector : Collector} (certain : before.Certain collector) :
    after.Certain collector := by
  cases collector with
  | chosen watch => exact stays.stored certain
  | paged watch events =>
    obtain ⟨stored, page⟩ := certain
    exact ⟨stays.stored stored, by rw [stays.log]; exact page⟩
  | synced watch events =>
    obtain ⟨stored, page, sent⟩ := certain
    exact ⟨stays.stored stored, by rw [stays.log]; exact page, fun event member own =>
      stays.attempts.dispatched (sent event member own)⟩

theorem Stays.watchSound (sound : before.WatchSound watch) : after.WatchSound watch := by
  refine ⟨stays.executions.registers sound.registered, ?_, ?_, ?_, ?_⟩
  · rw [stays.log]
    exact sound.pending
  · rw [stays.log]
    exact fun completed => (sound.completed completed).imp_left stays.attempts.calledOff
  · rw [stays.log]
    exact fun event member own within =>
      stays.attempts.dispatched (sound.dispatched event member own within)
  · rw [stays.log]
    exact sound.reached

theorem Stays.reports (reports : before.Reports digest watch) : after.Reports digest watch := by
  unfold Reports at reports ⊢
  rw [stays.log, stays.notifications]
  exact reports

theorem Stays.justified {row : Notification} (justified : before.Justified digest row) :
    after.Justified digest row := by
  obtain ⟨named, watch, member, cause⟩ := justified
  refine ⟨named, watch, stays.watches watch member, ?_⟩
  rw [stays.log]
  exact cause.imp_right fun ⟨completed, calledOff, reason⟩ =>
    ⟨completed, stays.attempts.calledOff calledOff, reason⟩

theorem Stays.queued (sound : before.Sound digest) :
    ∀ row ∈ after.notifications, after.Justified digest row := by
  rw [stays.notifications]
  exact fun row member => stays.justified (sound.queued row member)

theorem Stays.watchesSound (sound : before.Sound digest) (same : after.watches = before.watches) :
    ∀ watch ∈ after.watches, after.WatchSound watch ∧ after.Reports digest watch := by
  rw [same]
  intro watch member
  exact ⟨stays.watchSound (sound.watches watch member).1,
    stays.reports (sound.watches watch member).2⟩

end

end Watching
namespace Watching

variable {digest : List String → String} {before after : Watching}

/-! ### Steps of Runs -/

variable {snapshot : ExecutionSnapshot}

theorem syncExecution_attempt {next : RunSnapshot} {taskId : Identifier} {index : ℕ}
    (synced : run.syncExecution taskId index snapshot = .ok next) :
    ∃ task attempt, run.tasks.find? taskId = some task ∧ task.attempts[index]? = some attempt ∧
      attempt.dispatched = true := by
  unfold RunSnapshot.syncExecution at synced
  simp only [bind_eq_ok, present_eq_ok] at synced
  obtain ⟨task, stored, attempt, found, observed, outcome, _⟩ := synced
  unfold RunAttempt.observe at outcome
  simp only [passes_iff] at outcome
  exact ⟨task, attempt, stored, found, outcome.1⟩

/-- What a synchronisation finds and leaves. -/
structure Syncs (state : Watching) (executionId : Identifier) (next : Watching) : Prop where
  stays : Stays state next
  watches : next.watches = state.watches
  collectors : next.collectors = state.collectors
  runs : ∀ run ∈ next.runs, RunGraph run ∧ run.Registered next.executions
  dispatched : ∀ watch : Watch,
    state.executions.Registers executionId watch.runId watch.taskId watch.attempt →
      state.Dispatched watch

variable {state : Watching}

theorem syncExecution_syncs {next : Watching} (sound : state.Sound digest)
    {executionId : Identifier} (synced : state.syncExecution executionId snapshot = .ok next) :
    Syncs state executionId next := by
  unfold syncExecution at synced
  simp only [passes_iff] at synced
  obtain ⟨row, registered, _, run, stored, reached, moved, answered⟩ := synced
  cases answered
  obtain ⟨graph, listed⟩ := sound.runs run (mem_of_find? stored)
  obtain ⟨sameRun, commands⟩ := syncExecution_commands moved
  have moves := syncExecution_moves moved
  have named : reached.runId = run.runId := sameRun.1
  have tasks : TasksKept run.tasks reached.tasks := graph.tasksKept moves
  refine ⟨⟨rfl, ?_, fun _ _ => id, fun _ => id, rfl⟩, rfl, rfl, fun other member => ?_,
    fun watch bound => ?_⟩
  · refine RunsKept.attempts (runsKept_put fun old found => ?_)
    rw [named, find?_key (mem_of_find? stored)] at found
    cases found
    exact tasks
  · rcases mem_put.mp member with rfl | ⟨old, _⟩
    · refine ⟨graph.moves moves, fun taskId index command known => ?_⟩
      rw [commands] at known
      rw [named]
      exact listed taskId index command known
    · exact sound.runs other old
  · obtain ⟨same, found, ofRun, ofTask, ofAttempt⟩ := bound
    rw [registered] at found
    cases found
    obtain ⟨task, attempt, foundTask, foundAttempt, sent⟩ := syncExecution_attempt moved
    refine ⟨attempt, ?_, sent⟩
    unfold attemptOf
    simp only [bind_eq_ok, present_eq_ok]
    rw [← ofRun, ← ofTask, ← ofAttempt]
    exact ⟨run, stored, task, foundTask, foundAttempt⟩

theorem new_sound {watch : Watch}
    {watches : Table Watch.key} {reached : RunSnapshot} (new : watch.New run watches reached)
    (registered : reached.Registered state.executions) (named : reached.runId = run.runId) :
    state.WatchSound watch ∧ state.Reports digest watch := by
  have early : ∀ event ∈ state.log.rows, ¬ event.sequence ≤ watch.cursor := by
    intro event member within
    rw [new.cursor] at within
    exact absurd (state.log.positive event member) (not_lt.mpr within)
  obtain ⟨command, listed, same⟩ := new.bound
  refine ⟨⟨?_, fun _ event member _ => not_le.mp (early event member), fun completed => ?_,
    fun event member _ within => absurd within (early event member), Or.inl new.cursor⟩,
    fun event kind owes within => absurd within (early event owes.logged)⟩
  · rw [new.runId, ← named, ← same]
    exact registered watch.taskId watch.attempt command listed
  · rw [new.pending] at completed
    cases completed

end Watching
/-! ### Committing a page -/

/-- Whether the attempt was cancelled while it was planned. -/
def RunAttempt.calledOff (attempt : RunAttempt) : Prop :=
  attempt.dispatched = false ∧ attempt.state = .cancelled

/-- What a page adds to the notifications, and whether it completes the watch. -/
structure PageQueues (digest : List String → String) (watch : Watch) (attempt : RunAttempt)
    (now : Timestamp) (events : List ExecutionKernel.EventRow) (before : Notifications)
    (after : Notifications × Bool) : Prop where
  kept : ∀ row ∈ before, row ∈ after.1
  new : ∀ row ∈ after.1, row ∈ before ∨
    (∃ event kind, watch.Owes events event kind ∧
      row = watch.queued (watch.notice digest event kind) now) ∨
    (attempt.calledOff ∧ row = watch.queued (watch.cancellation digest attempt.cancelReason) now)
  reported : ∀ event kind, watch.Owes events event kind →
    ∃ row ∈ after.1, row.notificationId = watch.notificationId digest (.recorded event)
  done : after.2 = true ↔ attempt.calledOff ∨ ∃ event ∈ events, watch.Ends event

theorem queueCancellation_queues {digest : List String → String} {watch : Watch}
    {attempt : RunAttempt} {now : Timestamp} {events : List ExecutionKernel.EventRow}
    (ordered : events.Pairwise fun earlier later => earlier.sequence < later.sequence)
    (known : ∀ event ∈ events, event.executionId = watch.executionId → attempt.dispatched = true)
    (notifications : Notifications) :
    PageQueues digest watch attempt now events notifications
      (queueCancellation digest watch attempt now
        (queueEvents digest watch attempt.dispatched now events notifications)) := by
  obtain ⟨⟨kept, new, reported⟩, done⟩ := @queueEvents_queues digest watch now attempt.dispatched
    events ordered known notifications
  unfold queueCancellation
  split
  · rename_i calledOff
    obtain ⟨keptLast, newLast, _⟩ := queueNotification_spec watch
      (watch.cancellation digest attempt.cancelReason) now
      (queueEvents digest watch attempt.dispatched now events notifications).1
    refine ⟨fun row member => keptLast row (kept row member), fun row member => ?_,
      fun event kind owes => ?_, fun _ => Or.inl calledOff, fun _ => rfl⟩
    · rcases newLast row member with early | last
      · exact (new row early).imp_right Or.inl
      · exact .inr (.inr ⟨calledOff, last⟩)
    · obtain ⟨row, member, same⟩ := reported event kind owes
      exact ⟨row, keptLast row member, same⟩
  · rename_i attended
    refine ⟨kept, fun row member => (new row member).imp_right Or.inl, reported, ?_⟩
    rw [done]
    exact ⟨Or.inr, fun ended => ended.resolve_left attended⟩

namespace Watching

variable {digest : List String → String} {state next : Watching}

theorem commitPage_eq_ok {watch : Watch} {events : List ExecutionKernel.EventRow} {now : Timestamp}
    (committed : state.commitPage digest watch events now = .ok next) :
    next = state ∨ ∃ current attempt, state.watches.find? watch.key = some current ∧
      current.completed = false ∧ current.cursor = watch.cursor ∧
      state.attemptOf watch = .ok attempt ∧
      let queued := queueCancellation digest watch attempt now
        (queueEvents digest watch attempt.dispatched now events state.notifications)
      next = { state with
        watches := state.watches.put (current.advanced events queued.2), notifications := queued.1 } := by
  unfold commitPage at committed
  obtain ⟨current, found, committed⟩ := bind_eq_ok.mp committed
  split at committed
  · cases committed
    exact .inl rfl
  · rename_i fresh
    obtain ⟨attempt, looked, answered⟩ := bind_eq_ok.mp committed
    cases answered
    rw [not_or, not_not, Bool.not_eq_true] at fresh
    exact .inr ⟨current, attempt, present_eq_ok.mp found, fresh.1, fresh.2, looked, rfl⟩

theorem advanced_same (watch : Watch) (events : List ExecutionKernel.EventRow) (completed : Bool) :
    watch.Same (watch.advanced events completed) :=
  ⟨rfl, rfl, rfl, rfl, rfl, rfl, rfl, rfl⟩

theorem unreported (collisionFree : Injective digest) (sound : state.Sound digest)
    {current : Watch} (member : current ∈ state.watches) (pending : current.completed = false)
    (logged : event ∈ state.log.rows)
    (beyond : current.cursor < event.sequence) {row : Notification}
    (queued : row ∈ state.notifications) :
    row.notificationId ≠ current.notificationId digest (.recorded event) := by
  intro same
  obtain ⟨named, watch, stored, cause⟩ := sound.queued row queued
  have own : ∀ cause : NoticeCause,
      watch.notificationId digest cause = current.notificationId digest (.recorded event) →
        watch = current ∧ cause.text = eventId event := by
    intro cause equal
    have parts := collisionFree equal
    simp only [List.cons.injEq, and_true] at parts
    exact ⟨eq_of_key_eq stored member (Prod.ext (Identifier.ext parts.1) (Identifier.ext parts.2.1)),
      parts.2.2⟩
  rcases cause with ⟨reported, kind, owes, within, payload⟩ | ⟨completed, _, reason, payload⟩
  · rw [named, payload] at same
    obtain ⟨rfl, text⟩ := own (.recorded reported) same
    have equal : reported = event :=
      inj_on_of_nodup_map state.log.identified owes.logged logged text
    subst equal
    exact absurd within (not_le.mpr beyond)
  · rw [named, payload] at same
    obtain ⟨rfl, _⟩ := own (.plannedCancel reason) same
    rw [completed] at pending
    cases pending

end Watching
namespace Watching

variable {digest : List String → String} {state next : Watching}

/-- The state after a page has been committed, but for the collectors. -/
structure Commits (digest : List String → String) (state next : Watching) : Prop where
  log : next.log = state.log
  runs : next.runs = state.runs
  executions : next.executions = state.executions
  stored : ∀ watch, state.Stored watch → next.Stored watch
  watches : ∀ watch ∈ next.watches, next.WatchSound watch ∧ next.Reports digest watch
  queued : ∀ row ∈ next.notifications, next.Justified digest row

theorem commitPage_commits (collisionFree : Injective digest) (sound : state.Sound digest)
    {watch : Watch} {events : List ExecutionKernel.EventRow} {now : Timestamp}
    (certain : state.Certain (.synced watch events))
    (committed : state.commitPage digest watch events now = .ok next) :
    Commits digest state next := by
  rcases commitPage_eq_ok committed with rfl | ⟨current, attempt, found, pending, cursor, looked, rfl⟩
  · exact ⟨rfl, rfl, rfl, fun _ => id, sound.watches, sound.queued⟩
  obtain ⟨⟨stored, inside, same⟩, page, sent⟩ := certain
  have member := mem_of_find? found
  obtain rfl : stored = current :=
    eq_of_key_eq inside member (same.key.trans (key_of_find? found).symm)
  obtain ⟨held, reports⟩ := sound.watches stored member
  rw [← cursor] at page
  have known : ∀ event ∈ events, event.executionId = watch.executionId →
      attempt.dispatched = true := by
    intro event listed own
    obtain ⟨again, found, dispatched⟩ := sent event listed own
    rw [looked] at found
    cases found
    exact dispatched
  have queues := @queueCancellation_queues digest watch attempt now events page.ordered known
    state.notifications
  generalize queueCancellation digest watch attempt now
    (queueEvents digest watch attempt.dispatched now events state.notifications) = queued at queues
  have advanced : stored.Same (stored.advanced events queued.2) := advanced_same _ _ _
  have through : (stored.advanced events queued.2).cursor =
    EventLog.through stored.cursor events := rfl
  have open_ := held.pending pending
  have kept := advanced.key
  have off : attempt.calledOff ↔ state.CalledOff stored := by
    unfold CalledOff RunAttempt.calledOff
    rw [← same.symm.attemptOf state, looked]
    exact ⟨fun ⟨unsent, cancelled⟩ => ⟨attempt, rfl, unsent, cancelled⟩,
      fun ⟨_, again, facts⟩ => by cases again; exact facts⟩
  have stays (other : Watch) (old : other ∈ state.watches) : other = stored ∨
      other ∈ state.watches.put (stored.advanced events queued.2) := by
    by_cases here : other.key = stored.key
    · exact .inl (eq_of_key_eq old member here)
    · exact .inr (mem_put.mpr (.inr ⟨old, by rw [kept]; exact here⟩))
  have new : stored.advanced events queued.2 ∈
      state.watches.put (stored.advanced events queued.2) := mem_put.mpr (.inl rfl)
  have owed {event : ExecutionKernel.EventRow} {kind : NoticeKind} :
      watch.Owes events event kind ↔ watch.Owes state.log.rows event kind ∧
        stored.cursor < event.sequence ∧ event.sequence ≤ EventLog.through stored.cursor events :=
    page.owes fun event logged ends => open_ event logged (same.ends.mpr ends)
  refine ⟨rfl, rfl, rfl, fun other old => ?_, fun other moved => ?_, fun row listed => ?_⟩
  · obtain ⟨kept', inside', same'⟩ := old
    rcases stays kept' inside' with rfl | still
    · exact ⟨_, new, same'.trans advanced⟩
    · exact ⟨kept', still, same'⟩
  · rcases mem_put.mp moved with rfl | ⟨old, _⟩
    · refine ⟨⟨held.registered, fun incomplete event logged ends => ?_, fun complete => ?_,
        fun event logged own within => ?_, ?_⟩, fun event kind owes within => ?_⟩
      · rw [through]
        by_contra reached
        have listed := page.complete logged (open_ event logged (advanced.ends.mp ends))
          (not_lt.mp reached)
        have done := queues.done.mpr (.inr ⟨event, listed, same.ends.mp (advanced.ends.mp ends)⟩)
        rw [show (stored.advanced events queued.2).completed = queued.2 from rfl, done] at incomplete
        cases incomplete
      · rcases queues.done.mp complete with calledOff | ⟨event, listed, ends⟩
        · exact .inl (off.mp calledOff)
        · exact .inr ⟨event, (page.mem listed).1, same.ends.mpr ends, page.le_through listed⟩
      · rw [through] at within
        by_cases early : event.sequence ≤ stored.cursor
        · exact held.dispatched event logged own early
        · obtain ⟨again, found', dispatched⟩ := sent event
            (page.complete logged (not_le.mp early) within) (own.trans same.executionId)
          exact ⟨again, (same.attemptOf state).trans found', dispatched⟩
      · rw [through]
        unfold EventLog.through
        cases last : events.getLast? with
        | none => exact held.reached
        | some event =>
          exact .inr ⟨event, (page.mem (mem_of_getLast? last)).1, rfl⟩
      · rw [through] at within
        have owes' := advanced.owes owes
        by_cases early : event.sequence ≤ stored.cursor
        · obtain ⟨row, listed, payload⟩ := reports event kind owes' early
          exact ⟨row, queues.kept row listed, payload⟩
        · -- The page owes the event, and nothing queued before has its identity.
          have ofPage := owed.mpr ⟨same.owes owes', not_le.mp early, within⟩
          obtain ⟨row, listed, named⟩ := queues.reported event kind ofPage
          have identity : watch.notificationId digest (.recorded event) =
              stored.notificationId digest (.recorded event) := by
            unfold Watch.notificationId
            rw [same.runId, same.watchId]
          refine ⟨row, listed, ?_⟩
          rcases queues.new row listed with queuedBefore | ⟨other, kind', owes'', rfl⟩ |
            ⟨calledOff, rfl⟩
          · exact absurd (named.trans identity) (unreported collisionFree sound member pending
              owes.logged (not_le.mp early) queuedBefore)
          · have parts := collisionFree named
            simp only [List.cons.injEq, and_true, true_and] at parts
            have equal : other = event := inj_on_of_nodup_map state.log.identified
              (owed.mp owes'').1.logged owes.logged parts
            subst equal
            obtain rfl : kind' = kind := Option.some.inj (owes''.kind.symm.trans owes.kind)
            exact (same.symm.notice digest other kind').trans rfl
          · exact absurd (off.mp calledOff) (Dispatched.not_calledOff (by
              obtain ⟨again, found', dispatched⟩ := sent event ofPage.logged ofPage.own
              exact ⟨again, (same.attemptOf state).trans found', dispatched⟩))
    · obtain ⟨sound', reports'⟩ := sound.watches other old
      refine ⟨⟨sound'.registered, sound'.pending, sound'.completed, sound'.dispatched,
        sound'.reached⟩, fun event kind owes within => ?_⟩
      obtain ⟨row, listed, payload⟩ := reports' event kind owes within
      exact ⟨row, queues.kept row listed, payload⟩
  · rcases queues.new row listed with old | ⟨event, kind, owes, rfl⟩ | ⟨calledOff, rfl⟩
    · obtain ⟨named, other, inside', cause⟩ := sound.queued row old
      rcases stays other inside' with rfl | still
      · refine ⟨named, _, new, ?_⟩
        rcases cause with ⟨event, kind, owes, within, payload⟩ | ⟨completed, _⟩
        · refine Or.inl ⟨event, kind, advanced.symm.owes owes, ?_, payload⟩
          rw [through]
          exact within.trans page.cursor_le
        · rw [completed] at pending
          cases pending
      · exact ⟨named, other, still, cause⟩
    · refine ⟨rfl, _, new, Or.inl ⟨event, kind, ?_, (owed.mp owes).2.2, ?_⟩⟩
      · exact advanced.symm.owes (same.symm.owes (owed.mp owes).1)
      · exact (same.symm.notice digest event kind).trans rfl
    · refine ⟨rfl, _, new, Or.inr ⟨queues.done.mpr (.inl calledOff), off.mp calledOff,
        attempt.cancelReason, ?_⟩⟩
      exact (same.symm.cancellation digest attempt.cancelReason).trans rfl

end Watching
namespace Watching

variable {digest : List String → String} {before after : Watching}

/-! ### The steps keep the invariant -/

variable {earlier rest collectors : List Collector}

variable {collector : Collector}

variable {old : Collector} {state : Watching}

theorem mem_collectors (working : collectors = earlier ++ old :: rest)
    (member : collector ∈ earlier ++ rest) : collector ∈ collectors := by
  rw [working, mem_append, mem_cons]
  rcases mem_append.mp member with first | last
  · exact .inl first
  · exact .inr (.inr last)

theorem mem_replaced {new : Collector} (working : collectors = earlier ++ old :: rest)
    (member : collector ∈ earlier ++ new :: rest) : collector = new ∨ collector ∈ collectors := by
  rcases mem_append.mp member with first | last
  · exact .inr (mem_collectors working (mem_append.mpr (.inl first)))
  · rcases mem_cons.mp last with same | old
    · exact .inl same
    · exact .inr (mem_collectors working (mem_append.mpr (.inr old)))

theorem certain_working (sound : before.Sound digest)
    (working : before.collectors = earlier ++ collector :: rest) : before.Certain collector :=
  sound.collectors collector (working ▸ mem_append_right earlier mem_cons_self)

theorem stays_refl (state : Watching) (collectors : List Collector) :
    Stays state { state with collectors } :=
  ⟨rfl, RunsKept.attempts (RunsKept.refl state.runs), fun _ _ => id, fun _ => id, rfl⟩

theorem Sound.collect (sound : before.Sound digest)
    (certain : ∀ collector ∈ collectors, before.Certain collector) :
    Sound digest { before with collectors } := by
  have stays := stays_refl before collectors
  exact ⟨sound.runs, stays.watchesSound sound rfl, stays.queued sound,
    fun collector member => stays.certain (certain collector member)⟩

theorem cursor_lt_appended {watch : Watch} (sound : state.WatchSound watch) {log : EventLog}
    (appended : log.rows = state.log.rows ++ [event]) : watch.cursor < event.sequence := by
  rcases sound.reached with zero | ⟨old, logged, same⟩
  · rw [zero]
    exact log.positive event (by rw [appended]; exact mem_append_right _ mem_cons_self)
  · rw [← same]
    exact EventLog.appended_beyond appended logged

theorem Sound.record (sound : before.Sound digest) {log : EventLog}
    (appended : log.rows = before.log.rows ++ [event]) : Sound digest { before with log } := by
  have attempts : AttemptsKept before { before with log } :=
    RunsKept.attempts (RunsKept.refl before.runs)
  have beyond (watch : Watch) (member : watch ∈ before.watches) : watch.cursor < event.sequence :=
    cursor_lt_appended (sound.watches watch member).1 appended
  have old {watch : Watch} (member : watch ∈ before.watches) {other : ExecutionKernel.EventRow}
      (listed : other ∈ log.rows) (within : other.sequence ≤ watch.cursor) :
      other ∈ before.log.rows := by
    rw [appended] at listed
    rcases mem_append.mp listed with inside | new
    · exact inside
    · rw [mem_singleton.mp new] at within
      exact absurd (beyond watch member) (not_lt.mpr within)
  have kept {other : ExecutionKernel.EventRow} (listed : other ∈ before.log.rows) :
      other ∈ log.rows := by
    rw [appended]
    exact mem_append_left _ listed
  refine ⟨sound.runs, fun watch member => ⟨?_, fun other kind owes within => ?_⟩,
    fun row member => ?_, fun collector member => ?_⟩
  · obtain ⟨held, _⟩ := sound.watches watch member
    refine ⟨held.registered, fun pending other listed ends => ?_, fun completed => ?_,
      fun other listed own within => ?_, ?_⟩
    · by_contra reached
      exact reached (held.pending pending other (old member listed (not_lt.mp reached)) ends)
    · refine (held.completed completed).imp attempts.calledOff ?_
      rintro ⟨other, listed, ends, within⟩
      exact ⟨other, kept listed, ends, within⟩
    · exact attempts.dispatched (held.dispatched other (old member listed within) own within)
    · refine held.reached.imp_right ?_
      rintro ⟨other, listed, same⟩
      exact ⟨other, kept listed, same⟩
  · exact (sound.watches watch member).2 other kind
      ((EventLog.owes_append appended (beyond watch member) within).mp owes) within
  · obtain ⟨named, watch, stored, cause⟩ := sound.queued row member
    refine ⟨named, watch, stored, cause.imp ?_ ?_⟩
    · rintro ⟨other, kind, owes, within, payload⟩
      exact ⟨other, kind, (EventLog.owes_append appended (beyond watch stored) within).mpr owes,
        within, payload⟩
    · rintro ⟨completed, calledOff, reason⟩
      exact ⟨completed, attempts.calledOff calledOff, reason⟩
  · have certain := sound.collectors collector member
    cases collector with
    | chosen watch => exact certain
    | paged watch events => exact ⟨certain.1, certain.2.append appended⟩
    | synced watch events =>
      exact ⟨certain.1, certain.2.1.append appended, fun other listed own =>
        attempts.dispatched (certain.2.2 other listed own)⟩

theorem Sound.create (sound : before.Sound digest) {runId : Identifier} {input definition : Json}
    (fresh : before.runs.find? runId = none) :
    Sound digest { before with runs := before.runs.put (.create runId input definition) } := by
  have stays : Stays before
      { before with runs := before.runs.put (.create runId input definition) } := by
    refine ⟨rfl, RunsKept.attempts (runsKept_put fun run found => ?_), fun _ _ => id, fun _ => id, rfl⟩
    rw [show (RunSnapshot.create runId input definition).runId = runId from rfl, fresh] at found
    cases found
  refine ⟨fun run member => ?_, stays.watchesSound sound rfl, stays.queued sound,
    fun collector member => stays.certain (sound.collectors collector member)⟩
  rcases mem_put.mp member with rfl | ⟨old, _⟩
  · exact ⟨.create runId input definition, fun _ _ _ listed => by cases listed⟩
  · exact sound.runs run old

theorem Sound.apply (sound : before.Sound digest) (stored : before.runs.find? run.runId = some run)
    {applicationState : Option Json} {reduction : Reduction} {watches : Table Watch.key}
    {executions : Executions}
    (applied : applyWatchedOperations stack run.generation run before.watches operations =
      .ok (reduction, watches))
    (accepted : registerExecutions reduction.run before.executions reduction.registrations =
      .ok executions) :
    Sound digest { before with
      runs := before.runs.put { reduction.run with
        applicationState := applicationState.getD reduction.run.applicationState
        revision := reduction.run.revision + 1 }
      executions, watches } := by
  obtain ⟨reduced, grown⟩ := applyWatchedOperations_grow applied
  obtain ⟨keeps, _⟩ := registerExecutions_registers accepted
  obtain ⟨graph, listed⟩ := sound.runs run (mem_of_find? stored)
  have step : RunStep run { reduction.run with
      applicationState := applicationState.getD reduction.run.applicationState
      revision := reduction.run.revision + 1 } := .applyOperations reduced
  have moves := RunStep.moves step
  have registered : reduction.run.Registered executions :=
    applyOperations_registered reduced accepted listed
  have stays : Stays before { before with
      runs := before.runs.put { reduction.run with
        applicationState := applicationState.getD reduction.run.applicationState
        revision := reduction.run.revision + 1 }
      executions, watches } := by
    refine ⟨rfl, RunsKept.attempts (runsKept_put fun old found => ?_), keeps, grown.kept, rfl⟩
    rw [show RunSnapshot.runId _ = run.runId from grown.sameRun.1, stored] at found
    cases found
    exact graph.tasksKept moves
  refine ⟨fun other member => ?_, fun watch member => ?_, stays.queued sound,
    fun collector member => stays.certain (sound.collectors collector member)⟩
  · rcases mem_put.mp member with rfl | ⟨old, _⟩
    · exact ⟨graph.moves moves, registered⟩
    · obtain ⟨sound', listed'⟩ := sound.runs other old
      exact ⟨sound', fun taskId index command known =>
        keeps.registers (listed' taskId index command known)⟩
  · rcases grown.new watch member with old | new
    · obtain ⟨held, reports⟩ := sound.watches watch old
      exact ⟨stays.watchSound held, stays.reports reports⟩
    · exact new_sound new registered grown.sameRun.1

theorem Step.sound (collisionFree : Injective digest) (sound : before.Sound digest)
    (step : Step digest before after) : after.Sound digest := by
  cases step with
  | record log event appended => exact sound.record appended
  | create runId input definition fresh => exact sound.create fresh
  | apply run stored stack operations applicationState reduction watches executions applied
      registered => exact sound.apply stored applied registered
  | sync executionId snapshot next synced =>
    have syncs := syncExecution_syncs sound synced
    refine ⟨syncs.runs, syncs.stays.watchesSound sound syncs.watches, syncs.stays.queued sound, ?_⟩
    rw [syncs.collectors]
    exact fun collector member => syncs.stays.certain (sound.collectors collector member)
  | choose watch member pending =>
    refine sound.collect fun collector listed => ?_
    rcases mem_cons.mp listed with rfl | old
    · exact ⟨watch, member, .refl watch⟩
    · exact sound.collectors collector old
  | page earlier rest watch limit working positive =>
    refine sound.collect fun collector listed => ?_
    rcases mem_replaced working listed with rfl | old
    · exact ⟨certain_working sound working, before.log.page_eventsSince watch.cursor limit⟩
    · exact sound.collectors collector old
  | pass earlier rest watch events working foreign =>
    refine sound.collect fun collector listed => ?_
    rcases mem_replaced working listed with rfl | old
    · obtain ⟨stored, page⟩ := certain_working sound working
      exact ⟨stored, page, fun event member own => absurd own (foreign event member)⟩
    · exact sound.collectors collector old
  | project earlier rest watch events snapshot next working synced =>
    have syncs := syncExecution_syncs sound synced
    obtain ⟨stored, page⟩ := certain_working sound working
    have reached : next.Sound digest := by
      refine ⟨syncs.runs, syncs.stays.watchesSound sound syncs.watches, syncs.stays.queued sound, ?_⟩
      rw [syncs.collectors]
      exact fun collector member => syncs.stays.certain (sound.collectors collector member)
    refine reached.collect fun collector listed => ?_
    rcases mem_replaced working listed with rfl | old
    · have certain : next.Certain (.paged watch events) := syncs.stays.certain ⟨stored, page⟩
      obtain ⟨stored', page'⟩ := certain
      refine ⟨stored', page', fun event member own => syncs.stays.attempts.dispatched ?_⟩
      obtain ⟨current, inside, same⟩ := stored
      have bound := (sound.watches current inside).1.registered
      rw [same.executionId, same.runId, same.taskId, same.attempt] at bound
      exact syncs.dispatched watch bound
    · exact syncs.stays.certain (sound.collectors collector old)
  | commit earlier rest watch events now next working committed =>
    have commits := commitPage_commits collisionFree sound (certain_working sound working) committed
    have attempts : AttemptsKept before next :=
      RunsKept.attempts (by rw [commits.runs]; exact RunsKept.refl _)
    have moved := stays_refl next (earlier ++ rest)
    refine ⟨?_, fun other member => ?_, fun row member => moved.justified (commits.queued row member),
      fun collector listed => ?_⟩
    · show ∀ run ∈ next.runs, RunGraph run ∧ run.Registered next.executions
      rw [commits.runs, commits.executions]
      exact sound.runs
    · obtain ⟨held, reports⟩ := commits.watches other member
      exact ⟨moved.watchSound held, moved.reports reports⟩
    · have certain := sound.collectors collector (mem_collectors working listed)
      cases collector with
      | chosen other => exact commits.stored other certain
      | paged other page =>
        refine ⟨commits.stored other certain.1, ?_⟩
        show next.log.Page other.cursor page
        rw [commits.log]
        exact certain.2
      | synced other page =>
        refine ⟨commits.stored other certain.1, ?_, fun event member own =>
          attempts.dispatched (certain.2.2 event member own)⟩
        show next.log.Page other.cursor page
        rw [commits.log]
        exact certain.2.1
  | crash earlier rest collector working =>
    exact sound.collect fun other listed =>
      sound.collectors other (mem_collectors working listed)

theorem sound (collisionFree : Injective digest)
    (reachable : (watching digest).Reachable state) : state.Sound digest := by
  refine reachable.invariant (Sound digest) ?_
    fun _ _ _ sound step => Step.sound collisionFree sound step
  rintro state ⟨_, runs, _, watches, notifications, collectors⟩
  refine ⟨?_, ?_, ?_, ?_⟩
  · rw [runs]
    rintro run ⟨⟩
  · rw [watches]
    rintro watch ⟨⟩
  · rw [notifications]
    rintro row ⟨⟩
  · rw [collectors]
    rintro collector ⟨⟩

end Watching
namespace Watching

variable {digest : List String → String} {before after : Watching}

/-! ### Over a run -/

/-- No cursor goes back, a completed watch stays and queues nothing more, and nothing that is queued
is lost. -/
structure Onwards (before after : Watching) : Prop where
  watches : ∀ watch ∈ before.watches, ∃ later ∈ after.watches, watch.Same later ∧
    watch.cursor ≤ later.cursor ∧ (watch.completed = true → later = watch)
  kept : ∀ row ∈ before.notifications, row ∈ after.notifications
  new : ∀ row ∈ after.notifications, row ∈ before.notifications ∨
    ∀ watch ∈ before.watches, watch.completed = true →
      ¬ (row.payload.runId = watch.runId ∧ row.payload.watchId = watch.watchId)

theorem Onwards.of_stays (watches : ∀ watch ∈ before.watches,
    watch ∈ after.watches) (notifications : after.notifications = before.notifications) :
    Onwards before after := by
  refine ⟨fun watch member => ⟨watch, watches watch member, .refl watch, le_rfl, fun _ => rfl⟩, ?_,
    ?_⟩ <;> rw [notifications]
  · exact fun _ => id
  · exact fun _ => Or.inl

theorem Onwards.trans {first second third : Watching} (left : Onwards first second)
    (right : Onwards second third) : Onwards first third := by
  refine ⟨fun watch member => ?_, fun row member => right.kept row (left.kept row member),
    fun row member => ?_⟩
  · obtain ⟨middle, stored, same, forward, completed⟩ := left.watches watch member
    obtain ⟨last, kept, equal, further, completed'⟩ := right.watches middle stored
    refine ⟨last, kept, same.trans equal, forward.trans further, fun done => ?_⟩
    have stays := completed done
    subst stays
    exact completed' done
  · rcases right.new row member with old | foreign
    · exact left.new row old
    · refine Or.inr fun watch stored done => ?_
      obtain ⟨middle, kept, _, _, completed⟩ := left.watches watch stored
      have stays := completed done
      subst stays
      exact foreign middle kept done

theorem commitPage_onwards (sound : before.Sound digest) {watch : Watch}
    {events : List ExecutionKernel.EventRow} {now : Timestamp}
    (certain : before.Certain (.synced watch events))
    (committed : before.commitPage digest watch events now = .ok after) : Onwards before after := by
  rcases commitPage_eq_ok committed with rfl | ⟨current, attempt, found, pending, cursor, looked, rfl⟩
  · exact .of_stays (fun _ => id) rfl
  obtain ⟨⟨stored, inside, same⟩, page, sent⟩ := certain
  have member := mem_of_find? found
  obtain rfl : stored = current :=
    eq_of_key_eq inside member (same.key.trans (key_of_find? found).symm)
  rw [← cursor] at page
  have queues := @queueCancellation_queues digest watch attempt now events page.ordered
    (fun event listed own => by
      obtain ⟨again, found, dispatched⟩ := sent event listed own
      rw [looked] at found
      cases found
      exact dispatched) before.notifications
  generalize queueCancellation digest watch attempt now
    (queueEvents digest watch attempt.dispatched now events before.notifications) = queued at queues
  have advanced : stored.Same (stored.advanced events queued.2) := advanced_same _ _ _
  have foreign (other : Watch) (old : other ∈ before.watches) (done : other.completed = true) :
      ¬ (watch.runId = other.runId ∧ watch.watchId = other.watchId) := by
    rintro ⟨runId, watchId⟩
    have equal : other = stored := eq_of_key_eq old member
      ((Prod.ext runId watchId : watch.key = other.key).symm.trans same.key.symm)
    rw [equal, pending] at done
    cases done
  refine ⟨fun other old => ?_, queues.kept, fun row listed => ?_⟩
  · by_cases here : other.key = stored.key
    · have equal : other = stored := eq_of_key_eq old member here
      subst equal
      refine ⟨_, mem_put.mpr (.inl rfl), advanced, page.cursor_le, fun done => ?_⟩
      rw [pending] at done
      cases done
    · exact ⟨other, mem_put.mpr (.inr ⟨old, by rw [advanced.key]; exact here⟩), .refl other, le_rfl,
        fun _ => rfl⟩
  · rcases queues.new row listed with old | ⟨event, kind, _, rfl⟩ | ⟨_, rfl⟩
    · exact .inl old
    · exact .inr foreign
    · exact .inr foreign

theorem Step.onwards (sound : before.Sound digest) (step : Step digest before after) :
    Onwards before after := by
  cases step with
  | apply run stored stack operations applicationState reduction watches executions applied
      registered =>
    exact .of_stays (applyWatchedOperations_grow applied).2.kept rfl
  | sync executionId snapshot next synced =>
    have syncs := syncExecution_syncs sound synced
    exact .of_stays syncs.stays.watches syncs.stays.notifications
  | project earlier rest watch events snapshot next working synced =>
    have syncs := syncExecution_syncs sound synced
    exact .of_stays syncs.stays.watches syncs.stays.notifications
  | commit earlier rest watch events now next working committed =>
    obtain ⟨watches, kept, new⟩ :=
      commitPage_onwards sound (certain_working sound working) committed
    exact ⟨watches, kept, new⟩
  | record | create | choose | page | pass | crash => exact .of_stays (fun _ => id) rfl

theorem onwards (collisionFree : Injective digest) {state last : Watching}
    (reachable : (watching digest).Reachable state) (run : (watching digest).Run state last) :
    Onwards state last :=
  reachable.respects Onwards (fun _ => .of_stays (fun _ => id) rfl) Onwards.trans
    (fun _ _ reached step => Step.onwards (sound collisionFree reached) step) run

end Watching
/-! ### An example -/

/-- A text with a mark before every character and another one behind the last. -/
def markedText : List Char → List Char
  | [] => ['.']
  | character :: rest => ':' :: character :: markedText rest

/-- Texts that can be told apart in a single one. -/
def markedTexts : List String → List Char
  | [] => []
  | text :: rest => markedText text.toList ++ markedTexts rest

def sampleDigest (texts : List String) : String := String.ofList (markedTexts texts)

theorem markedText_append_inj {left right : List Char} {first second : List Char}
    (same : markedText left ++ first = markedText right ++ second) :
    left = right ∧ first = second := by
  induction left generalizing right with
  | nil =>
    cases right with
    | nil => exact ⟨rfl, append_cancel_left same⟩
    | cons character rest => exact absurd (List.cons.inj same).1 (by decide)
  | cons character rest hypothesis =>
    cases right with
    | nil => exact absurd (List.cons.inj same).1 (by decide)
    | cons other others =>
      obtain ⟨equal, tails⟩ := List.cons.inj (List.cons.inj same).2
      obtain ⟨rests, ends⟩ := hypothesis tails
      exact ⟨by rw [equal, rests], ends⟩

theorem sampleDigest_injective : Injective sampleDigest := by
  intro left right same
  have marked : markedTexts left = markedTexts right := by
    have texts := congrArg String.toList same
    unfold sampleDigest at texts
    rwa [String.toList_ofList, String.toList_ofList] at texts
  clear same
  induction left generalizing right with
  | nil =>
    cases right with
    | nil => rfl
    | cons text rest =>
      cases characters : text.toList <;> simp [markedTexts, markedText, characters] at marked
  | cons text rest hypothesis =>
    cases right with
    | nil => cases characters : text.toList <;> simp [markedTexts, markedText, characters] at marked
    | cons other others =>
      obtain ⟨same, rests⟩ := markedText_append_inj marked
      rw [String.toList_inj.mp same, hypothesis rests]

def sampleCreated : Watching where
  log := ⟨[], .nil, by rintro _ ⟨⟩, nodup_nil⟩
  runs := Table.put ∅ (.create sampleName .null .null)
  executions := ∅
  watches := ∅
  notifications := ∅
  collectors := []

/-- The stores after a task has been added, dispatched and watched by one list of operations. -/
def sampleWatched : Except SdkError Watching := do
  let (reduction, watches) ← applyWatchedOperations 1 0 (.create sampleName .null .null) ∅
    [.addTask sampleName sampleCommand none, .dispatch sampleName,
      .watchTask sampleName sampleName (.bool true) none]
  let executions ← registerExecutions reduction.run ∅ reduction.registrations
  return { sampleCreated with
    runs := sampleCreated.runs.put { reduction.run with
      applicationState := reduction.run.applicationState
      revision := reduction.run.revision + 1 }
    executions, watches }

end DispatcherSdk.Orchestrator
