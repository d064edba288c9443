/-
This file proves that the consumer of projections confirms every event at least once and
passes none over.

The callbacks' confirmations are kept beside the store. They are closed downwards among the
events of the Run, and the cursor of the subscription never lies beyond them.
-/

import DispatcherSdk.ExecutionKernel.Contracts
import DispatcherSdk.Library.Transition
import Mathlib.Data.Rat.Encodable
import Mathlib.Logic.Equiv.List
import Mathlib.Tactic.DeriveEncodable

namespace DispatcherSdk.Orchestrator

open Library
open ExecutionKernel (Identifier Json)

/-! ### The event store of a Run -/

/-- The arguments of `acknowledge_events`. -/
structure AckRequest where
  runId : Identifier
  expectedRevision : ℕ
  subscription : Identifier
  expectedCursor : ℕ
  advanceTo : ℕ

/-- The document whose digest the command is stored with. -/
def AckRequest.content (request : AckRequest) : Json :=
  .object
    [("kind", .string "acknowledge_events"), ("expected_revision", .ofNat request.expectedRevision),
      ("subscription", request.subscription.toJson),
      ("expected_cursor", .ofNat request.expectedCursor),
      ("advance_to", .ofNat request.advanceTo)]

/-- What the store holds of a Run, as far as one subscription is concerned. -/
structure EventStore where
  revision : ℕ
  generation : ℕ
  /-- A recovery of the Run is being activated. -/
  recovering : Bool
  /-- The sequences of all events that were ever stored, in their order. -/
  events : List ℕ
  highWater : ℕ
  /-- Events up to here may have been deleted. -/
  expiredThrough : ℕ
  cursor : ℕ
  /-- The commands of acknowledgements, each with the digest of its content. -/
  commands : List (String × String)

/-- What `observe` answers. -/
structure Observation where
  revision : ℕ
  cursor : ℕ
  highWater : ℕ
  events : List ℕ

/-- `observe`, unless the cursor has expired. -/
def EventStore.observe (store : EventStore) (limit : ℕ) : Option Observation :=
  if store.cursor < store.expiredThrough then none
  else
    some
      { revision := store.revision
        cursor := store.cursor
        highWater := store.highWater
        events := (store.events.filter fun sequence => decide (store.cursor < sequence)).take limit }

/-- What a caller sees of `acknowledge_events`: an error other than a conflict of revisions stands
for a lost response too. -/
inductive AckAnswer where
  | accepted
  | revisionConflict
  | failed

/-- `acknowledge_events`, called without an expected generation. -/
def EventStore.acknowledge (digest : Json.Text → String) (store : EventStore)
    (commandId : String) (request : AckRequest) : AckAnswer × EventStore :=
  let fingerprint := digest request.content.encode
  match store.commands.find? fun command => command.1 = commandId with
  | some command =>
    if command.2 = fingerprint then (.accepted, store) else (.failed, store)
  | none =>
    if store.recovering = true then (.failed, store)
    else if store.revision ≠ request.expectedRevision then (.revisionConflict, store)
    else if store.generation ≠ 0 then (.revisionConflict, store)
    else if store.cursor ≠ request.expectedCursor then (.revisionConflict, store)
    else if store.cursor < store.expiredThrough then (.failed, store)
    else if store.cursor ≤ request.advanceTo ∧ request.advanceTo ≤ store.highWater then
      (.accepted,
        { store with
          cursor := request.advanceTo
          commands := store.commands ++ [(commandId, fingerprint)] })
    else (.failed, store)

/-! ### A drain -/

/-- The configuration of a `ProjectionConsumer`, for one Run. -/
structure ConsumerConfig where
  sourceId : Identifier
  runId : Identifier
  subscription : Identifier
  pageSize : ℕ
  maxConflictRetries : ℕ
  maxAckRetries : ℕ
  pageFilled : 1 ≤ pageSize
  pageBounded : pageSize ≤ 10000

/-- The document that identifies an acknowledgement. -/
def identityContent (sourceId : Identifier) (request : AckRequest) : Json :=
  .object
    [("advance_to", .ofNat request.advanceTo), ("expected_cursor", .ofNat request.expectedCursor),
      ("expected_revision", .ofNat request.expectedRevision),
      ("run_id", request.runId.toJson),
      ("source_id", sourceId.toJson),
      ("subscription", request.subscription.toJson)]

/-- `"projection:" + digest({…})`. -/
def commandIdOf (digest : Json.Text → String) (sourceId : Identifier) (request : AckRequest) :
    String :=
  "projection:" ++ digest (identityContent sourceId request).encode

/-- `ProjectionStatus`. -/
inductive DrainStatus where
  | completed
  | blocked
  | interrupted
  | conflict

/-- The stage and the reason of a `ProjectionFailure`. -/
inductive DrainFailure where
  | observeFailed
  | asyncCallback (sequence : ℕ)
  | invalidConfirmation (sequence : ℕ)
  | callbackFailed (sequence : ℕ)
  | casConflict (sequence : ℕ)
  | ackFailed (sequence : ℕ)

inductive DrainPhase where
  /-- At the head of the loop. -/
  | observing
  /-- Before the offer of the first of the remaining events of a page. -/
  | offering (page : Observation) (last : ℕ) (sequence : ℕ) (rest : List ℕ)
  /-- Before an attempt to acknowledge a page. -/
  | acknowledging (page : Observation) (advanceTo : ℕ) (attempt : ℕ)
  /-- The drain has reported. -/
  | reported (status : DrainStatus) (failure : Option DrainFailure)
  /-- The target lies beyond the events that were observed; this is raised. -/
  | raised

/-- A drain in the course of its work, with the number of rounds of its loop. -/
structure Drain where
  config : ConsumerConfig
  target : Option ℕ
  cursor : Option ℕ
  processed : ℕ
  replayed : ℕ
  pages : ℕ
  conflicts : ℕ
  rounds : ℕ
  phase : DrainPhase

namespace Drain

/-- The start of `_drain`. -/
def start (config : ConsumerConfig) (target : Option ℕ) : Drain where
  config := config
  target := target
  cursor := none
  processed := 0
  replayed := 0
  pages := 0
  conflicts := 0
  rounds := 0
  phase := .observing

/-- `report(…)`. -/
def report (drain : Drain) (status : DrainStatus) (failure : Option DrainFailure := none) : Drain :=
  { drain with phase := .reported status failure }

/-- The drain has neither reported nor raised. -/
def active (drain : Drain) : Bool :=
  match drain.phase with
  | .observing | .offering .. | .acknowledging .. => true
  | .reported .. | .raised => false

/-- The head of the loop, given what `observe` answered. -/
def observed (drain : Drain) : Option Observation → Drain
  | none => { drain with rounds := drain.rounds + 1 }.report .blocked (some .observeFailed)
  | some page =>
    let target := drain.target.getD page.highWater
    let seen :=
      { drain with cursor := some page.cursor, target := some target, rounds := drain.rounds + 1 }
    if page.highWater < target then { seen with phase := .raised }
    else
      match page.events.filter fun sequence => decide (sequence ≤ target) with
      | [] => seen.report .completed
      | sequence :: rest =>
        if target ≤ page.cursor then seen.report .completed
        else
          { seen with phase := .offering page ((sequence :: rest).getLast (by simp)) sequence rest }

inductive OfferAnswer where
  | persisted
  | alreadyPresent
  | awaitable
  | unconfirmed
  | raised

/-- The callback has confirmed the event. -/
def OfferAnswer.confirms : OfferAnswer → Bool
  | persisted | alreadyPresent => true
  | _ => false

/-- One more event is confirmed; the last of a page leads to its acknowledgement. -/
def confirmed (drain : Drain) (page : Observation) (last : ℕ) (present : Bool) :
    List ℕ → Drain
  | [] =>
    { drain with
      processed := drain.processed + 1
      replayed := drain.replayed + present.toNat
      phase := .acknowledging page last 0 }
  | next :: rest =>
    { drain with
      processed := drain.processed + 1
      replayed := drain.replayed + present.toNat
      phase := .offering page last next rest }

/-- The loop over the events of a page, given what the callback answered to the offer of one. -/
def offered (drain : Drain) (page : Observation) (last sequence : ℕ) (rest : List ℕ) :
    OfferAnswer → Drain
  | .persisted => drain.confirmed page last false rest
  | .alreadyPresent => drain.confirmed page last true rest
  | .awaitable => drain.report .blocked (some (.asyncCallback sequence))
  | .unconfirmed => drain.report .blocked (some (.invalidConfirmation sequence))
  | .raised => drain.report .blocked (some (.callbackFailed sequence))

def request (drain : Drain) (page : Observation) (advanceTo : ℕ) : AckRequest where
  runId := drain.config.runId
  expectedRevision := page.revision
  subscription := drain.config.subscription
  expectedCursor := page.cursor
  advanceTo := advanceTo

/-- The loop over the attempts to acknowledge a page, given what one of them answered. -/
def answered (drain : Drain) (page : Observation) (advanceTo attempt : ℕ) : AckAnswer → Drain
  | .accepted =>
    let moved := { drain with cursor := some advanceTo, pages := drain.pages + 1 }
    if ∀ target ∈ drain.target, target ≤ advanceTo then moved.report .completed
    else { moved with phase := .observing }
  | .revisionConflict =>
    let counted := { drain with conflicts := drain.conflicts + 1 }
    if drain.config.maxConflictRetries < drain.conflicts + 1 then
      counted.report .conflict (some (.casConflict advanceTo))
    else { counted with phase := .observing }
  | .failed =>
    if attempt = drain.config.maxAckRetries then
      drain.report .blocked (some (.ackFailed advanceTo))
    else { drain with phase := .acknowledging page advanceTo (attempt + 1) }

end Drain

/-! ### Drains, the store, and other writers -/

/-- A store of events with the drains of one subscription, and every confirmation that a callback
has ever given. -/
structure ProjectionWorld where
  store : EventStore
  drains : ℕ → Option Drain
  confirmed : List ℕ

/-- A world in which one drain has moved on. -/
def ProjectionWorld.moved (world : ProjectionWorld) (index : ℕ) (drain : Drain) : ProjectionWorld :=
  { world with drains := Function.update world.drains index (some drain) }

variable (digest : Json.Text → String) (runId subscription : Identifier)

/-- What may happen. Several drains of one subscription may be under way, in different processes. -/
inductive ProjectionStep (before : ProjectionWorld) : ProjectionWorld → Prop
  /-- A consumer begins to drain. -/
  | begin {index : ℕ} {config : ConsumerConfig} (target : Option ℕ)
      (vacant : before.drains index = none)
      (own : config.runId = runId ∧ config.subscription = subscription) :
      ProjectionStep before (before.moved index (.start config target))
  /-- A drain looks at the store. -/
  | observe {index : ℕ} {drain : Drain} (running : before.drains index = some drain)
      (waiting : drain.phase = .observing) :
      ProjectionStep before
        (before.moved index (drain.observed (before.store.observe drain.config.pageSize)))
  /-- The store cannot be read. -/
  | unreadable {index : ℕ} {drain : Drain} (running : before.drains index = some drain)
      (waiting : drain.phase = .observing) :
      ProjectionStep before (before.moved index (drain.observed none))
  /-- An event is offered to the callback. -/
  | offer {index : ℕ} {drain : Drain} {page : Observation} {last sequence : ℕ} {rest : List ℕ}
      (answer : Drain.OfferAnswer) (running : before.drains index = some drain)
      (waiting : drain.phase = .offering page last sequence rest) :
      ProjectionStep before
        { before.moved index (drain.offered page last sequence rest answer) with
          confirmed :=
            if answer.confirms then before.confirmed ++ [sequence] else before.confirmed }
  /-- A page is acknowledged, and the drain learns the answer. -/
  | acknowledge {index : ℕ} {drain : Drain} {page : Observation} {advanceTo attempt : ℕ}
      (running : before.drains index = some drain)
      (waiting : drain.phase = .acknowledging page advanceTo attempt) :
      ProjectionStep before
        { before.moved index (drain.answered page advanceTo attempt
            (before.store.acknowledge digest
              (commandIdOf digest drain.config.sourceId (drain.request page advanceTo))
              (drain.request page advanceTo)).1) with
          store := (before.store.acknowledge digest
            (commandIdOf digest drain.config.sourceId (drain.request page advanceTo))
            (drain.request page advanceTo)).2 }
  /-- A page is acknowledged, and the response is lost. -/
  | unanswered {index : ℕ} {drain : Drain} {page : Observation} {advanceTo attempt : ℕ}
      (running : before.drains index = some drain)
      (waiting : drain.phase = .acknowledging page advanceTo attempt) :
      ProjectionStep before
        { before.moved index (drain.answered page advanceTo attempt .failed) with
          store := (before.store.acknowledge digest
            (commandIdOf digest drain.config.sourceId (drain.request page advanceTo))
            (drain.request page advanceTo)).2 }
  /-- An acknowledgement fails before it reaches the store. -/
  | unreachable {index : ℕ} {drain : Drain} {page : Observation} {advanceTo attempt : ℕ}
      (running : before.drains index = some drain)
      (waiting : drain.phase = .acknowledging page advanceTo attempt) :
      ProjectionStep before (before.moved index (drain.answered page advanceTo attempt .failed))
  /-- A drain is asked to stop, or its time is over. -/
  | interrupt {index : ℕ} {drain : Drain} (running : before.drains index = some drain)
      (active : drain.active = true) :
      ProjectionStep before (before.moved index (drain.report .interrupted))
  /-- A process ends, and its drain with it. -/
  | crash (index : ℕ) :
      ProjectionStep before { before with drains := Function.update before.drains index none }
  /-- Another writer changes the Run, and may append events. -/
  | write (revision generation : ℕ) (recovering : Bool) {events : List ℕ}
      (ordered : events.Pairwise (· < ·))
      (fresh : ∀ sequence ∈ events, before.store.highWater < sequence) :
      ProjectionStep before
        { before with
          store := { before.store with
            revision, generation, recovering
            events := before.store.events ++ events
            highWater := events.getLast?.getD before.store.highWater } }
  /-- Old events and old commands are deleted. -/
  | expire {through : ℕ} (kept : String × String → Bool)
      (within : through ≤ before.store.highWater) :
      ProjectionStep before
        { before with
          store := { before.store with
            expiredThrough := max before.store.expiredThrough through
            commands := before.store.commands.filter kept } }

def ProjectionWorld.start : ProjectionWorld where
  store := ⟨0, 0, false, [], 0, 0, 0, []⟩
  drains := fun _ => none
  confirmed := []

/-- The consumers of one subscription of a Run. -/
def projectionSystem : TransitionSystem ProjectionWorld where
  initial world := world = .start
  step world next := ProjectionStep digest runId subscription world next

open List
open ExecutionKernel (Identifier Json)

/-! ### The event store -/

namespace EventStore

/-- The number of events up to a sequence. -/
def upTo (store : EventStore) (sequence : ℕ) : ℕ :=
  (store.events.filter fun event => decide (event ≤ sequence)).length

/-- The events are stored in the order of their sequences, and the watermark lies above them. -/
structure Ordered (store : EventStore) : Prop where
  sorted : store.events.Pairwise (· < ·)
  bounded : ∀ event ∈ store.events, event ≤ store.highWater
  reached : store.cursor ≤ store.highWater

/-- Events are only appended, and the cursor and the watermark only move forward. -/
structure Grows (before after : EventStore) : Prop where
  events : ∃ fresh, after.events = before.events ++ fresh ∧
    ∀ event ∈ fresh, before.highWater < event
  cursor : before.cursor ≤ after.cursor
  highWater : before.highWater ≤ after.highWater

variable {before after store : EventStore}

theorem Grows.refl (store : EventStore) : store.Grows store :=
  ⟨⟨[], (append_nil _).symm, nofun⟩, le_refl _, le_refl _⟩

theorem Grows.mem (grows : before.Grows after) {event : ℕ} (stored : event ∈ before.events) :
    event ∈ after.events := by
  obtain ⟨fresh, same, -⟩ := grows.events
  rw [same]
  exact mem_append_left fresh stored

theorem Grows.old (grows : before.Grows after) {event : ℕ} (stored : event ∈ after.events)
    (within : event ≤ before.highWater) : event ∈ before.events := by
  obtain ⟨fresh, same, later⟩ := grows.events
  rw [same] at stored
  rcases mem_append.mp stored with old | new
  · exact old
  · exact absurd within (not_le_of_gt (later event new))

theorem Grows.initial (grows : before.Grows after) {sequence : ℕ}
    (within : sequence ≤ before.highWater) :
    (after.events.filter fun event => decide (event ≤ sequence)) =
      before.events.filter fun event => decide (event ≤ sequence) := by
  obtain ⟨fresh, same, later⟩ := grows.events
  have none_new : (fresh.filter fun event => decide (event ≤ sequence)) = [] := by
    rw [filter_eq_nil_iff]
    intro event member passed
    exact not_le_of_gt (later event member) ((of_decide_eq_true passed).trans within)
  rw [same, filter_append, none_new, append_nil]

theorem Grows.trans {first second third : EventStore} (start : first.Grows second)
    (next : second.Grows third) : first.Grows third := by
  obtain ⟨left, leftEvents, leftLater⟩ := start.events
  obtain ⟨right, rightEvents, rightLater⟩ := next.events
  refine ⟨⟨left ++ right, ?_, ?_⟩, start.cursor.trans next.cursor,
    start.highWater.trans next.highWater⟩
  · rw [rightEvents, leftEvents, append_assoc]
  · intro event member
    rcases mem_append.mp member with old | new
    · exact leftLater event old
    · exact lt_of_le_of_lt start.highWater (rightLater event new)

theorem Grows.upTo (grows : before.Grows after) (sequence : ℕ) :
    before.upTo sequence ≤ after.upTo sequence := by
  obtain ⟨fresh, same, -⟩ := grows.events
  unfold EventStore.upTo
  rw [same, filter_append, length_append]
  exact Nat.le_add_right _ _

theorem upTo_mono (store : EventStore) {low high : ℕ} (below : low ≤ high) :
    store.upTo low ≤ store.upTo high := by
  unfold upTo
  refine (monotone_filter_right store.events fun event passed => ?_).length_le
  exact decide_eq_true ((of_decide_eq_true passed).trans below)

theorem upTo_lt (store : EventStore) {low high : ℕ} (below : low < high)
    (stored : high ∈ store.events) : store.upTo low + 1 ≤ store.upTo high := by
  unfold upTo
  have split : (store.events.filter fun event => decide (event ≤ low)) =
      (store.events.filter fun event => decide (event ≤ high)).filter
        fun event => decide (event ≤ low) := by
    rw [filter_filter]
    refine filter_congr fun event _ => ?_
    by_cases small : event ≤ low
    · simp [small, small.trans below.le]
    · simp [small]
  rw [split, Nat.succ_le_iff, length_filter_lt_length_iff_exists]
  refine ⟨high, mem_filter.mpr ⟨stored, decide_eq_true (le_refl high)⟩, ?_⟩
  simpa using below

end EventStore

/-! ### What holds of a drain -/

/-- Where a drain stands among the events, in each of its phases. -/
def Drain.Placed (store : EventStore) (confirmed : List ℕ) (drain : Drain) : Prop :=
  match drain.phase with
  | .observing => True
  | .offering page last sequence rest =>
    drain.cursor = some page.cursor ∧ page.cursor < sequence ∧
      (sequence :: rest).Pairwise (· < ·) ∧
      (∀ event ∈ sequence :: rest, event ∈ store.events) ∧
      (∀ target ∈ drain.target, last ≤ target) ∧
      (sequence :: rest).getLast? = some last ∧
      (∀ event ∈ store.events, event < sequence → event ∈ confirmed) ∧
      ∀ event ∈ store.events, sequence ≤ event → event ≤ last → event ∈ sequence :: rest
  | .acknowledging page advanceTo attempt =>
    drain.cursor = some page.cursor ∧ page.cursor < advanceTo ∧ advanceTo ∈ store.events ∧
      (∀ target ∈ drain.target, advanceTo ≤ target) ∧
      (∀ event ∈ store.events, event ≤ advanceTo → event ∈ confirmed) ∧
      attempt ≤ drain.config.maxAckRetries
  | .reported status _ =>
    status = .completed → ∃ target, drain.target = some target ∧ target ≤ store.highWater ∧
      ∀ event ∈ store.events, event ≤ target → event ∈ confirmed
  | .raised => True

/-- The end of a round of the loop that is still to come. -/
def DrainPhase.owed : DrainPhase → ℕ
  | .observing => 0
  | _ => 1

/-- A drain that has looked at the store has a target; what it has done is bounded by it. -/
structure Drain.Bounded (store : EventStore) (drain : Drain) : Prop where
  floor : drain.cursor.getD 0 ≤ store.cursor
  aimed : drain.cursor.isSome → drain.target.isSome
  within : drain.cursor.isSome → drain.phase ≠ .raised →
    ∀ target ∈ drain.target, target ≤ store.highWater
  started : drain.cursor = none → drain.pages = 0
  pages : drain.pages ≤ store.upTo (drain.cursor.getD 0)
  aimedPages : ∀ target ∈ drain.target, drain.pages ≤ store.upTo target
  rounds : drain.rounds ≤ drain.conflicts + drain.pages + drain.phase.owed
  conflicts : drain.conflicts ≤ drain.config.maxConflictRetries + 1
  patient : drain.active = true → drain.conflicts ≤ drain.config.maxConflictRetries

structure Drain.Sound (store : EventStore) (confirmed : List ℕ) (drain : Drain) : Prop where
  placed : drain.Placed store confirmed
  bounded : drain.Bounded store

/-- What holds of the store, the confirmations and all drains. -/
structure ProjectionWorld.Sound (digest : Json.Text → String) (world : ProjectionWorld) : Prop where
  ordered : world.store.Ordered
  known : ∀ sequence ∈ world.confirmed, sequence ∈ world.store.events
  closed : ∀ sequence ∈ world.confirmed, ∀ event ∈ world.store.events,
    event < sequence → event ∈ world.confirmed
  covered : ∀ event ∈ world.store.events, event ≤ world.store.cursor → event ∈ world.confirmed
  commands : ∀ command ∈ world.store.commands, ∃ source request,
    command.1 = commandIdOf digest source request ∧ request.advanceTo ≤ world.store.cursor
  drains : ∀ index drain, world.drains index = some drain →
    drain.Sound world.store world.confirmed

section Drains

variable {before after store : EventStore} {confirmed later : List ℕ} {drain : Drain}

theorem Drain.Sound.mono (sound : drain.Sound before confirmed) (ordered : before.Ordered)
    (grows : before.Grows after) (more : confirmed ⊆ later) : drain.Sound after later := by
  refine ⟨?_, ?_⟩
  · have placed := sound.placed
    unfold Drain.Placed at placed ⊢
    cases phase : drain.phase with
    | observing => trivial
    | offering page last sequence rest =>
      rw [phase] at placed
      obtain ⟨seen, ahead, chain, stored, within, ends, done, consecutive⟩ := placed
      have bounded : ∀ event ∈ sequence :: rest, event ≤ before.highWater :=
        fun event member => ordered.bounded event (stored event member)
      refine ⟨seen, ahead, chain, fun event member => grows.mem (stored event member), within,
        ends, fun event member early => ?_, fun event member start finish => ?_⟩
      · have old := grows.old member (early.le.trans (bounded sequence mem_cons_self))
        exact more (done event old early)
      · exact consecutive event (grows.old member (finish.trans (bounded last (mem_of_getLast? ends))))
          start finish
    | acknowledging page advanceTo attempt =>
      rw [phase] at placed
      obtain ⟨seen, ahead, stored, within, done, patient⟩ := placed
      refine ⟨seen, ahead, grows.mem stored, within, fun event member early => ?_, patient⟩
      exact more (done event (grows.old member (early.trans (ordered.bounded _ stored))) early)
    | reported status failure =>
      rw [phase] at placed
      intro completed
      obtain ⟨target, aimed, within, done⟩ := placed completed
      refine ⟨target, aimed, within.trans grows.highWater, fun event member early => ?_⟩
      exact more (done event (grows.old member (early.trans within)) early)
    | raised => trivial
  · have bounded := sound.bounded
    exact
      { floor := bounded.floor.trans grows.cursor
        aimed := bounded.aimed
        within := fun looked phase target aimed =>
          (bounded.within looked phase target aimed).trans grows.highWater
        started := bounded.started
        pages := bounded.pages.trans (grows.upTo _)
        aimedPages := fun target aimed => (bounded.aimedPages target aimed).trans (grows.upTo _)
        rounds := bounded.rounds
        conflicts := bounded.conflicts
        patient := bounded.patient }

theorem Drain.Sound.reports {status : DrainStatus} {failure : Option DrainFailure}
    (bounded : drain.Bounded store) (moved : drain.phase.owed = 1)
    (incomplete : status ≠ .completed) (looked : drain.phase ≠ .raised) :
    (drain.report status failure).Sound store confirmed where
  placed completed := absurd completed incomplete
  bounded :=
    { floor := bounded.floor
      aimed := bounded.aimed
      within := fun seen _ => bounded.within seen looked
      started := bounded.started
      pages := bounded.pages
      aimedPages := bounded.aimedPages
      rounds := by
        have rounds := bounded.rounds
        rw [moved] at rounds
        exact rounds
      conflicts := bounded.conflicts
      patient := nofun }

theorem Drain.Sound.interrupted (sound : drain.Sound store confirmed)
    (active : drain.active = true) : (drain.report .interrupted).Sound store confirmed := by
  have bounded := sound.bounded
  have looked : drain.phase ≠ .raised := by
    intro raised
    unfold Drain.active at active
    rw [raised] at active
    cases active
  refine ⟨nofun, ⟨bounded.floor, bounded.aimed, fun seen _ => bounded.within seen looked,
    bounded.started, bounded.pages, bounded.aimedPages, ?_, bounded.conflicts, nofun⟩⟩
  have owed : drain.phase.owed ≤ 1 := by cases drain.phase <;> simp [DrainPhase.owed]
  exact bounded.rounds.trans (Nat.add_le_add_left owed _)

theorem Drain.start_sound (config : ConsumerConfig) (target : Option ℕ) :
    (Drain.start config target).Sound store confirmed where
  placed := trivial
  bounded :=
    { floor := Nat.zero_le _
      aimed := nofun
      within := nofun
      started := fun _ => rfl
      pages := Nat.zero_le _
      aimedPages := fun _ _ => Nat.zero_le _
      rounds := le_refl 0
      conflicts := Nat.zero_le _
      patient := fun _ => Nat.zero_le _ }

/-! ### Looking at the store -/

theorem mem_take_of_le {events : List ℕ} {limit event bound : ℕ}
    (sorted : events.Pairwise (· < ·)) (first : bound ∈ events.take limit)
    (stored : event ∈ events) (below : event ≤ bound) : event ∈ events.take limit := by
  rw [← take_append_drop limit events] at stored sorted
  rcases mem_append.mp stored with early | late
  · exact early
  · have beyond := (pairwise_append.mp sorted).2.2 bound first event late
    exact absurd below (not_le_of_gt beyond)

variable {phase : DrainPhase}

theorem Drain.Bounded.observed (bounded : drain.Bounded store) (waiting : drain.phase = .observing)
    {target : ℕ} (aimed : drain.target.getD store.highWater = target)
    (within : phase ≠ .raised → target ≤ store.highWater) (moved : phase.owed = 1) :
    ({ drain with
      cursor := some store.cursor
      target := some target
      rounds := drain.rounds + 1
      phase := phase } : Drain).Bounded store where
  floor := le_refl _
  aimed _ := rfl
  within _ other found same := by
    cases same
    exact within other
  started := nofun
  pages := bounded.pages.trans (store.upTo_mono bounded.floor)
  aimedPages found same := by
    cases same
    cases before : drain.target with
    | some earlier =>
      rw [before] at aimed
      exact bounded.aimedPages target (before.trans (congrArg some aimed))
    | none =>
      have fresh : drain.cursor = none := by
        rw [← Option.not_isSome_iff_eq_none]
        intro looked
        have found := bounded.aimed looked
        rw [before] at found
        cases found
      rw [bounded.started fresh]
      exact Nat.zero_le _
  rounds := by
    have rounds := bounded.rounds
    rw [waiting] at rounds
    rw [moved]
    exact Nat.succ_le_succ rounds
  conflicts := bounded.conflicts
  patient _ := bounded.patient (by unfold Drain.active; rw [waiting])

theorem Drain.Sound.observed (sound : drain.Sound store confirmed)
    (waiting : drain.phase = .observing) (ordered : store.Ordered)
    (covered : ∀ event ∈ store.events, event ≤ store.cursor → event ∈ confirmed) :
    (drain.observed (store.observe drain.config.pageSize)).Sound store confirmed := by
  have bounded := sound.bounded
  have still : drain.active = true := by
    unfold Drain.active
    rw [waiting]
  unfold EventStore.observe
  split
  · refine ⟨nofun, ⟨bounded.floor, bounded.aimed, fun seen _ => bounded.within seen ?_,
      bounded.started, bounded.pages, bounded.aimedPages, ?_, bounded.conflicts, nofun⟩⟩
    · rw [waiting]
      nofun
    · have rounds := bounded.rounds
      rw [waiting] at rounds
      exact Nat.succ_le_succ rounds
  · unfold Drain.observed
    dsimp only
    generalize aimed : drain.target.getD store.highWater = target
    have sorted : (store.events.filter fun event => decide (store.cursor < event)).Pairwise
        (· < ·) := ordered.sorted.sublist filter_sublist
    have pending : ∀ event ∈ store.events, ¬ event ≤ store.cursor →
        event ∈ store.events.filter fun event => decide (store.cursor < event) :=
      fun event member beyond => mem_filter.mpr ⟨member, decide_eq_true (lt_of_not_ge beyond)⟩
    have stored : ∀ event ∈ store.events.filter fun event => decide (store.cursor < event),
        event ∈ store.events ∧ store.cursor < event :=
      fun event member => ⟨mem_of_mem_filter member,
        of_decide_eq_true (mem_filter.mp member).2⟩
    have filled := drain.config.pageFilled
    generalize drain.config.pageSize = limit at filled ⊢
    generalize store.events.filter (fun event => decide (store.cursor < event)) = ahead
      at sorted pending stored ⊢
    split
    · rename_i beyond
      exact ⟨trivial, bounded.observed waiting aimed (fun other => absurd rfl other) rfl⟩
    · rename_i inside
      have within := Nat.le_of_not_lt inside
      split
      · rename_i empty
        refine ⟨fun _ => ⟨target, rfl, within, fun event member early => ?_⟩,
          bounded.observed waiting aimed (fun _ => within) rfl⟩
        by_cases passed : event ≤ store.cursor
        · exact covered event member passed
        · have later := pending event member passed
          cases ahead with
          | nil => cases later
          | cons first others =>
            have early_first : first ≤ target := by
              rcases mem_cons.mp later with rfl | other
              · exact early
              · exact ((pairwise_cons.mp sorted).1 event other).le.trans early
            obtain ⟨size, rfl⟩ := Nat.exists_eq_succ_of_ne_zero (Nat.one_le_iff_ne_zero.mp filled)
            have missing := filter_eq_nil_iff.mp empty first
              (by rw [take_succ_cons]; exact mem_cons_self)
            exact absurd (decide_eq_true early_first) missing
      · rename_i sequence rest found
        have chosen : ∀ event, event ∈ sequence :: rest ↔
            event ∈ ahead.take limit ∧ event ≤ target := by
          intro event
          rw [← found, mem_filter, decide_eq_true_eq]
        have chain : (sequence :: rest).Pairwise (· < ·) := by
          rw [← found]
          exact (sorted.sublist (take_sublist _ _)).sublist filter_sublist
        split
        · rename_i reached
          refine ⟨fun _ => ⟨target, rfl, within, fun event member early => ?_⟩,
            bounded.observed waiting aimed (fun _ => within) rfl⟩
          exact covered event member (early.trans reached)
        · have ends : (sequence :: rest).getLast? =
              some ((sequence :: rest).getLast (by simp)) := List.getLast?_eq_some_getLast _
          have lastMember := mem_of_getLast? ends
          have first := (chosen sequence).mp mem_cons_self
          refine ⟨⟨rfl, (stored sequence (mem_of_mem_take first.1)).2, chain,
            fun event member =>
              (stored event (mem_of_mem_take ((chosen event).mp member).1)).1,
            fun aim same => ?_, ends, fun event member early => ?_,
            fun event member start finish => ?_⟩,
            bounded.observed waiting aimed (fun _ => within) rfl⟩
          · cases same
            exact ((chosen _).mp lastMember).2
          · by_cases passed : event ≤ store.cursor
            · exact covered event member passed
            · have taken := mem_take_of_le sorted first.1 (pending event member passed) early.le
              have among := (chosen event).mpr ⟨taken, early.le.trans first.2⟩
              rcases mem_cons.mp among with rfl | other
              · exact absurd early (lt_irrefl event)
              · exact absurd early (not_lt_of_gt ((pairwise_cons.mp chain).1 event other))
          · have beyond : ¬ event ≤ store.cursor :=
              not_le_of_gt (lt_of_lt_of_le (stored sequence (mem_of_mem_take first.1)).2 start)
            have last := (chosen _).mp lastMember
            exact (chosen event).mpr ⟨mem_take_of_le sorted last.1 (pending event member beyond)
              finish, finish.trans last.2⟩

/-! ### Offering and acknowledging -/

theorem Drain.Bounded.moved (bounded : drain.Bounded store) {processed replayed : ℕ}
    (active : drain.active = true) (owed : drain.phase.owed = 1) (moved : phase.owed = 1) :
    ({ drain with
      processed := processed, replayed := replayed, phase := phase } : Drain).Bounded store where
  floor := bounded.floor
  aimed := bounded.aimed
  within seen _ := bounded.within seen (by
    intro raised
    unfold Drain.active at active
    rw [raised] at active
    cases active)
  started := bounded.started
  pages := bounded.pages
  aimedPages := bounded.aimedPages
  rounds := by
    have rounds := bounded.rounds
    rw [owed] at rounds
    rw [moved]
    exact rounds
  conflicts := bounded.conflicts
  patient _ := bounded.patient active

variable {page : Observation}

section

variable (sound : drain.Sound store confirmed)

include sound

section

variable {last sequence : ℕ} {rest : List ℕ}
  (waiting : drain.phase = .offering page last sequence rest)

include waiting

theorem Drain.Sound.advanced (present : Bool) :
    (drain.confirmed page last present rest).Sound store (confirmed ++ [sequence]) := by
  have active : drain.active = true := by
    unfold Drain.active
    rw [waiting]
  have owed : drain.phase.owed = 1 := by rw [waiting]; rfl
  have placed := sound.placed
  unfold Drain.Placed at placed
  rw [waiting] at placed
  obtain ⟨seen, ahead, chain, stored, within, ends, done, consecutive⟩ := placed
  obtain ⟨before_rest, chain_rest⟩ := pairwise_cons.mp chain
  cases rest with
  | nil =>
    cases ends
    refine ⟨⟨seen, ahead, stored sequence mem_cons_self, within, fun event member early => ?_,
      Nat.zero_le _⟩, sound.bounded.moved active owed rfl⟩
    rcases lt_or_eq_of_le early with less | same
    · exact mem_append_left _ (done event member less)
    · exact mem_append_right _ (mem_singleton.mpr same)
  | cons next others =>
    have further := before_rest next mem_cons_self
    have last_rest : (next :: others).getLast? = some last := by
      rw [← ends, List.getLast?_cons_cons]
    refine ⟨⟨seen, ahead.trans further, chain_rest, fun event member =>
      stored event (mem_cons_of_mem _ member), within, last_rest,
      fun event member early => ?_, fun event member start finish => ?_⟩,
      sound.bounded.moved active owed rfl⟩
    · by_cases less : event < sequence
      · exact mem_append_left _ (done event member less)
      · have bound : next ≤ last := by
          rcases mem_cons.mp (mem_of_getLast? last_rest) with same | other
          · exact le_of_eq same.symm
          · exact ((pairwise_cons.mp chain_rest).1 last other).le
        have among := consecutive event member (Nat.le_of_not_lt less) (early.le.trans bound)
        rcases mem_cons.mp among with same | later
        · exact mem_append_right _ (mem_singleton.mpr same)
        · rcases mem_cons.mp later with rfl | other
          · exact absurd early (lt_irrefl event)
          · exact absurd early (not_lt_of_gt ((pairwise_cons.mp chain_rest).1 event other))
    · have among := consecutive event member (further.le.trans start) finish
      rcases mem_cons.mp among with rfl | later
      · exact absurd further (not_lt_of_ge start)
      · exact later

theorem Drain.Sound.offered (answer : Drain.OfferAnswer) :
    (drain.offered page last sequence rest answer).Sound store
      (if answer.confirms then confirmed ++ [sequence] else confirmed) := by
  have owed : drain.phase.owed = 1 := by rw [waiting]; rfl
  have looked : drain.phase ≠ .raised := by rw [waiting]; nofun
  cases answer with
  | persisted => exact sound.advanced waiting false
  | alreadyPresent => exact sound.advanced waiting true
  | awaitable => exact .reports sound.bounded owed nofun looked
  | unconfirmed => exact .reports sound.bounded owed nofun looked
  | raised => exact .reports sound.bounded owed nofun looked

end

theorem Drain.Sound.answered {advanceTo attempt : ℕ} {answer : AckAnswer}
    (waiting : drain.phase = .acknowledging page advanceTo attempt)
    (moved : answer = .accepted → advanceTo ≤ store.cursor) :
    (drain.answered page advanceTo attempt answer).Sound store confirmed := by
  have owed : drain.phase.owed = 1 := by rw [waiting]; rfl
  have looked : drain.phase ≠ .raised := by rw [waiting]; nofun
  have active : drain.active = true := by
    unfold Drain.active
    rw [waiting]
  have bounded := sound.bounded
  have rounds := bounded.rounds
  rw [owed] at rounds
  have placed := sound.placed
  unfold Drain.Placed at placed
  rw [waiting] at placed
  obtain ⟨seen, ahead, stored, within, done, patient⟩ := placed
  obtain ⟨target, aimed⟩ := Option.isSome_iff_exists.mp (bounded.aimed (by rw [seen]; rfl))
  have reachable := bounded.within (by rw [seen]; rfl) looked
  cases answer with
  | accepted =>
    have floor := moved rfl
    have pages : drain.pages + 1 ≤ store.upTo advanceTo := by
      have before := bounded.pages
      rw [seen] at before
      exact (Nat.succ_le_succ before).trans (store.upTo_lt ahead stored)
    have after : ∀ phase : DrainPhase, ({ drain with
        cursor := some advanceTo, pages := drain.pages + 1, phase := phase } : Drain).Bounded
          store := by
      intro phase
      refine ⟨floor, fun _ => bounded.aimed (by rw [seen]; rfl), fun _ _ => reachable, nofun,
        pages, fun aim same => pages.trans (store.upTo_mono (within aim same)), ?_,
        bounded.conflicts, fun _ => bounded.patient active⟩
      show drain.rounds ≤ drain.conflicts + (drain.pages + 1) + phase.owed
      exact (le_of_le_of_eq rounds (Nat.add_assoc _ _ _)).trans (Nat.le_add_right _ _)
    unfold Drain.answered
    dsimp only
    split
    · rename_i reached
      refine ⟨fun _ => ⟨target, aimed, reachable target aimed, fun event member early => ?_⟩,
        after _⟩
      exact done event member (early.trans (reached target aimed))
    · exact ⟨trivial, after _⟩
  | revisionConflict =>
    have counted : ∀ phase : DrainPhase, (phase = .observing →
        drain.conflicts + 1 ≤ drain.config.maxConflictRetries) → (phase = .observing ∨
        ∃ status failure, phase = .reported status failure) → ({ drain with
        conflicts := drain.conflicts + 1, phase := phase } : Drain).Bounded store := by
      intro phase allowed kind
      refine ⟨bounded.floor, bounded.aimed, fun _ _ => reachable, bounded.started, bounded.pages,
        bounded.aimedPages, ?_, Nat.succ_le_succ (bounded.patient active), fun going => ?_⟩
      · show drain.rounds ≤ drain.conflicts + 1 + drain.pages + phase.owed
        omega
      · rcases kind with same | ⟨status, failure, same⟩
        · exact allowed same
        · unfold Drain.active at going
          rw [show ({ drain with
            conflicts := drain.conflicts + 1, phase := phase } : Drain).phase = _ from same] at going
          cases going
    unfold Drain.answered
    dsimp only
    split
    · exact ⟨nofun, counted _ nofun (.inr ⟨_, _, rfl⟩)⟩
    · rename_i allowed
      exact ⟨trivial, counted _ (fun _ => Nat.le_of_not_lt allowed) (.inl rfl)⟩
  | failed =>
    unfold Drain.answered
    dsimp only
    split
    · exact .reports bounded owed nofun looked
    · rename_i again
      exact ⟨⟨seen, ahead, stored, within, done, lt_of_le_of_ne patient again⟩,
        bounded.moved active owed rfl⟩

end

end Drains

/-! ### Command identities -/

theorem identityContent_encode (source : Identifier) (request : AckRequest) :
    (identityContent source request).encode = .openObject :: Json.separated
        [[.string "advance_to", .colon, .int request.advanceTo],
          [.string "expected_cursor", .colon, .int request.expectedCursor],
          [.string "expected_revision", .colon, .int request.expectedRevision],
          [.string "run_id", .colon, .string request.runId.text],
          [.string "source_id", .colon, .string source.text],
          [.string "subscription", .colon, .string request.subscription.text]] ++
        [.closeObject] := by
  have sorted : ∀ first second third fourth fifth sixth : Json.Text,
      [("advance_to", first), ("expected_cursor", second), ("expected_revision", third),
        ("run_id", fourth), ("source_id", fifth), ("subscription", sixth)].insertionSort
          (fun left right => left.1 ≤ right.1) =
        [("advance_to", first), ("expected_cursor", second), ("expected_revision", third),
          ("run_id", fourth), ("source_id", fifth), ("subscription", sixth)] := by
    intro first second third fourth fifth sixth
    refine List.Pairwise.insertionSort_eq ?_
    simp only [pairwise_cons, forall_mem_cons, not_mem_nil, false_implies,
      implies_true, List.Pairwise.nil, and_true]
    decide
  simp only [identityContent, Json.encode, Json.encodeFields, sorted, map_cons, map_nil,
    Json.ofNat, Identifier.toJson]

theorem commandIdOf_injective {digest : Json.Text → String}
    (collisionFree : Function.Injective digest) {source other : Identifier}
    {request later : AckRequest}
    (same : commandIdOf digest source request = commandIdOf digest other later) :
    source = other ∧ request = later := by
  have texts := collisionFree (String.append_right_inj _ |>.mp same)
  rw [identityContent_encode, identityContent_encode] at texts
  simp only [Json.separated, cons_append, nil_append, List.cons.injEq, Json.Lexeme.int.injEq,
    Json.Lexeme.string.injEq, Nat.cast_inj, true_and, and_true] at texts
  obtain ⟨advance, cursor, revision, run, origin, subscription⟩ := texts
  refine ⟨Identifier.ext origin, ?_⟩
  cases request
  cases later
  simp only [AckRequest.mk.injEq]
  exact ⟨Identifier.ext run, revision, Identifier.ext subscription, cursor, advance⟩

theorem le_last {events : List ℕ} {event last : ℕ} (sorted : events.Pairwise (· < ·))
    (member : event ∈ events) (ends : events.getLast? = some last) : event ≤ last := by
  obtain ⟨init, rfl⟩ := List.getLast?_eq_some_iff.mp ends
  rcases mem_append.mp member with early | final
  · exact ((pairwise_append.mp sorted).2.2 event early last (mem_singleton.mpr rfl)).le
  · exact le_of_eq (mem_singleton.mp final)

/-! ### The whole world -/

section Worlds

variable {digest : Json.Text → String} {runId subscription : Identifier}
  {before after world : ProjectionWorld}

/-- What `acknowledge_events` does to the store, if it changes it. -/
theorem acknowledge_cases (digest : Json.Text → String) (store : EventStore) (commandId : String)
    (request : AckRequest) :
    (∃ answer, store.acknowledge digest commandId request = (answer, store) ∧
      (answer = .accepted → ∃ command ∈ store.commands, command.1 = commandId)) ∨
    (store.acknowledge digest commandId request = (.accepted,
        { store with
          cursor := request.advanceTo
          commands := store.commands ++ [(commandId, digest request.content.encode)] }) ∧
      store.cursor ≤ request.advanceTo ∧ request.advanceTo ≤ store.highWater) := by
  unfold EventStore.acknowledge
  dsimp only
  cases found : store.commands.find? fun command => command.1 = commandId with
  | some command =>
    refine Or.inl ?_
    have member := mem_of_find?_eq_some found
    have named : command.1 = commandId := by simpa using List.find?_some found
    dsimp only
    split
    · exact ⟨.accepted, rfl, fun _ => ⟨command, member, named⟩⟩
    · exact ⟨.failed, rfl, nofun⟩
  | none =>
    dsimp only
    split
    · exact .inl ⟨_, rfl, nofun⟩
    split
    · exact .inl ⟨_, rfl, nofun⟩
    split
    · exact .inl ⟨_, rfl, nofun⟩
    split
    · exact .inl ⟨_, rfl, nofun⟩
    split
    · exact .inl ⟨_, rfl, nofun⟩
    split
    · rename_i within
      exact .inr ⟨rfl, within⟩
    · exact .inl ⟨_, rfl, nofun⟩

theorem ProjectionWorld.Sound.acknowledged (collisionFree : Function.Injective digest)
    (sound : world.Sound digest) {index : ℕ} {drain : Drain} {page : Observation}
    {advanceTo attempt : ℕ} (running : world.drains index = some drain)
    (waiting : drain.phase = .acknowledging page advanceTo attempt) {answer : AckAnswer}
    {store : EventStore} (answered : world.store.acknowledge digest
      (commandIdOf digest drain.config.sourceId (drain.request page advanceTo))
      (drain.request page advanceTo) = (answer, store)) :
    ({ world with store := store } : ProjectionWorld).Sound digest ∧
      world.store.Grows store ∧ (answer = .accepted → advanceTo ≤ store.cursor) := by
  have placed := (sound.drains index drain running).placed
  unfold Drain.Placed at placed
  rw [waiting] at placed
  obtain ⟨-, -, -, -, done, -⟩ := placed
  rcases acknowledge_cases digest world.store
    (commandIdOf digest drain.config.sourceId (drain.request page advanceTo))
    (drain.request page advanceTo) with ⟨other, still, replay⟩ | ⟨moved, forward, within⟩
  · rw [answered] at still
    obtain ⟨rfl, rfl⟩ := Prod.mk.inj still
    refine ⟨sound, .refl _, fun accepted => ?_⟩
    obtain ⟨command, member, named⟩ := replay accepted
    obtain ⟨source, request, identity, reached⟩ := sound.commands command member
    obtain ⟨-, rfl⟩ := commandIdOf_injective collisionFree (identity.symm.trans named)
    exact reached
  · rw [answered] at moved
    obtain ⟨rfl, rfl⟩ := Prod.mk.inj moved
    have grows : world.store.Grows
        { world.store with
          cursor := advanceTo
          commands := world.store.commands ++
            [(commandIdOf digest drain.config.sourceId (drain.request page advanceTo),
              digest (drain.request page advanceTo).content.encode)] } :=
      ⟨⟨[], (append_nil _).symm, nofun⟩, forward, le_refl _⟩
    refine ⟨⟨⟨sound.ordered.sorted, sound.ordered.bounded, within⟩, sound.known, sound.closed, done,
      fun command member => ?_, fun other found running => ?_⟩, grows, fun _ => le_refl _⟩
    · rcases mem_append.mp member with old | new
      · obtain ⟨source, request, identity, reached⟩ := sound.commands command old
        exact ⟨source, request, identity, reached.trans forward⟩
      · cases mem_singleton.mp new
        exact ⟨drain.config.sourceId, drain.request page advanceTo, rfl, le_refl _⟩
    · exact (sound.drains other found running).mono sound.ordered grows (List.Subset.refl _)

theorem ProjectionWorld.Sound.moved (sound : world.Sound digest) {index : ℕ} {drain : Drain}
    (own : drain.Sound world.store world.confirmed) : (world.moved index drain).Sound digest := by
  refine ⟨sound.ordered, sound.known, sound.closed, sound.covered, sound.commands,
    fun other found running => ?_⟩
  by_cases same : other = index
  · rw [same] at running
    have moved : some drain = some found := (Function.update_self index _ _).symm.trans running
    cases moved
    exact own
  · have kept : world.drains other = some found :=
      (Function.update_of_ne same _ _).symm.trans running
    exact sound.drains other found kept

theorem ProjectionStep.sound (collisionFree : Function.Injective digest)
    (step : ProjectionStep digest runId subscription before after)
    (sound : before.Sound digest) : after.Sound digest := by
  cases step with
  | begin target vacant own => exact sound.moved (Drain.start_sound _ target)
  | observe running waiting =>
    exact sound.moved ((sound.drains _ _ running).observed waiting sound.ordered sound.covered)
  | unreadable running waiting =>
    rename_i index drain
    have bounded := (sound.drains _ _ running).bounded
    have rounds := bounded.rounds
    rw [waiting] at rounds
    exact sound.moved ⟨nofun, ⟨bounded.floor, bounded.aimed,
      fun seen _ => bounded.within seen (by rw [waiting]; nofun), bounded.started, bounded.pages,
      bounded.aimedPages, Nat.succ_le_succ rounds, bounded.conflicts, nofun⟩⟩
  | offer answer running waiting =>
    rename_i index drain page last sequence rest
    have own := sound.drains _ _ running
    have placed := own.placed
    unfold Drain.Placed at placed
    rw [waiting] at placed
    obtain ⟨-, -, -, stored, -, -, done, -⟩ := placed
    have more : before.confirmed ⊆
        if answer.confirms then before.confirmed ++ [sequence] else before.confirmed := by
      split
      · exact subset_append_left _ _
      · exact List.Subset.refl _
    have confirmed : ({ before with
        confirmed := if answer.confirms then before.confirmed ++ [sequence]
          else before.confirmed } : ProjectionWorld).Sound digest := by
      refine ⟨sound.ordered, fun event member => ?_, fun event member other early less => ?_,
        fun event member passed => more (sound.covered event member passed), sound.commands,
        fun other found live =>
          (sound.drains other found live).mono sound.ordered (.refl _) more⟩
      · dsimp only at member
        split at member
        · rcases mem_append.mp member with old | new
          · exact sound.known event old
          · rw [mem_singleton.mp new]
            exact stored sequence mem_cons_self
        · exact sound.known event member
      · refine more ?_
        dsimp only at member
        split at member
        · rcases mem_append.mp member with old | new
          · exact sound.closed event old other early less
          · rw [mem_singleton.mp new] at less
            exact done other early less
        · exact sound.closed event member other early less
    exact confirmed.moved (own.offered waiting answer)
  | acknowledge running waiting =>
    obtain ⟨kept, grows, floor⟩ := sound.acknowledged collisionFree running waiting rfl
    refine kept.moved (Drain.Sound.answered ?_ waiting floor)
    exact (sound.drains _ _ running).mono sound.ordered grows (List.Subset.refl _)
  | unanswered running waiting =>
    obtain ⟨kept, grows, -⟩ := sound.acknowledged collisionFree running waiting rfl
    refine kept.moved (Drain.Sound.answered ?_ waiting nofun)
    exact (sound.drains _ _ running).mono sound.ordered grows (List.Subset.refl _)
  | unreachable running waiting =>
    exact sound.moved ((sound.drains _ _ running).answered waiting nofun)
  | interrupt running active => exact sound.moved ((sound.drains _ _ running).interrupted active)
  | crash index =>
    refine ⟨sound.ordered, sound.known, sound.closed, sound.covered, sound.commands,
      fun other found running => ?_⟩
    by_cases same : other = index
    · rw [same] at running
      have gone : none = some found := (Function.update_self index _ _).symm.trans running
      cases gone
    · exact sound.drains other found ((Function.update_of_ne same _ _).symm.trans running)
  | write revision generation recovering ordered fresh =>
    rename_i events
    have ahead : before.store.highWater ≤ events.getLast?.getD before.store.highWater := by
      cases last : events.getLast? with
      | none => exact le_refl _
      | some event => exact (fresh event (mem_of_getLast? last)).le
    have grows : before.store.Grows { before.store with
        revision, generation, recovering
        events := before.store.events ++ events
        highWater := events.getLast?.getD before.store.highWater } :=
      ⟨⟨events, rfl, fresh⟩, le_refl _, ahead⟩
    have old : ∀ event ∈ before.store.events ++ events, event ≤ before.store.highWater →
        event ∈ before.store.events := fun event member => grows.old member
    refine ⟨⟨?_, fun event member => ?_, sound.ordered.reached.trans ahead⟩,
      fun event member => mem_append_left _ (sound.known event member),
      fun event member other stored less => ?_, fun event member passed => ?_, sound.commands,
      fun index drain running =>
        (sound.drains index drain running).mono sound.ordered grows (List.Subset.refl _)⟩
    · refine pairwise_append.mpr ⟨sound.ordered.sorted, ordered, fun left member right new => ?_⟩
      exact lt_of_le_of_lt (sound.ordered.bounded left member) (fresh right new)
    · rcases mem_append.mp member with stored | new
      · exact (sound.ordered.bounded event stored).trans ahead
      · obtain ⟨last, shown⟩ := Option.isSome_iff_exists.mp
          (List.getLast?_isSome.mpr (ne_nil_of_mem new))
        show event ≤ events.getLast?.getD _
        rw [shown]
        exact le_last ordered new shown
    · have known := sound.ordered.bounded event (sound.known event member)
      exact sound.closed event member other (old other stored (less.le.trans known)) less
    · exact sound.covered event (old event member (passed.trans sound.ordered.reached)) passed
  | expire kept within =>
    refine ⟨⟨sound.ordered.sorted, sound.ordered.bounded, sound.ordered.reached⟩, sound.known,
      sound.closed, sound.covered,
      fun command member => sound.commands command (mem_of_mem_filter member),
      fun index drain running => ?_⟩
    exact (sound.drains index drain running).mono sound.ordered
      ⟨⟨[], (append_nil _).symm, nofun⟩, le_refl _, le_refl _⟩ (List.Subset.refl _)

theorem ProjectionStep.grows (step : ProjectionStep digest runId subscription before after) :
    before.store.Grows after.store := by
  have committed : ∀ commandId request,
      before.store.Grows (before.store.acknowledge digest commandId request).2 := by
    intro commandId request
    rcases acknowledge_cases digest before.store commandId request with ⟨answer, still, -⟩ | ⟨moved, forward, -⟩
    · rw [still]
      exact .refl _
    · rw [moved]
      exact ⟨⟨[], (append_nil _).symm, nofun⟩, forward, le_refl _⟩
  cases step with
  | acknowledge | unanswered => exact committed _ _
  | write revision generation recovering ordered fresh =>
    rename_i events
    refine ⟨⟨events, rfl, fresh⟩, le_refl _, ?_⟩
    cases last : events.getLast? with
    | none => exact le_refl _
    | some event => exact (fresh event (mem_of_getLast? last)).le
  | _ => exact ⟨⟨[], (append_nil _).symm, nofun⟩, le_refl _, le_refl _⟩

theorem ProjectionWorld.sound (collisionFree : Function.Injective digest)
    (reachable : (projectionSystem digest runId subscription).Reachable world) :
    world.Sound digest := by
  refine reachable.invariant (ProjectionWorld.Sound digest) ?_ fun state next _ sound step =>
    ProjectionStep.sound collisionFree step sound
  rintro state rfl
  exact ⟨⟨List.Pairwise.nil, nofun, le_refl _⟩, nofun, nofun, nofun, nofun, nofun⟩

/-- In every run of consumers of one subscription: what the cursor has passed is confirmed, without
gaps; an offered event follows only confirmed ones; a drain that reports completion leaves nothing
up to its target unconfirmed, after boundedly many rounds. -/
theorem projections_at_least_once (collisionFree : Function.Injective digest)
    (reachable : (projectionSystem digest runId subscription).Reachable world) :
    (∀ event ∈ world.store.events, event ≤ world.store.cursor → event ∈ world.confirmed) ∧
    (∀ sequence ∈ world.confirmed, ∀ event ∈ world.store.events,
      event < sequence → event ∈ world.confirmed) ∧
    (∀ index drain, world.drains index = some drain →
      (∀ page last sequence rest, drain.phase = .offering page last sequence rest →
        sequence ∈ world.store.events ∧
        (∀ event ∈ world.store.events, event < sequence → event ∈ world.confirmed) ∧
        ∀ next ∈ rest.head?, next ∈ world.store.events ∧ sequence < next ∧
          ∀ event ∈ world.store.events, ¬ (sequence < event ∧ event < next)) ∧
      (∀ page advanceTo attempt, drain.phase = .acknowledging page advanceTo attempt →
        (∃ target, drain.target = some target ∧ advanceTo ≤ target) ∧
        attempt ≤ drain.config.maxAckRetries) ∧
      (∀ failure, drain.phase = .reported .completed failure →
        ∃ target, drain.target = some target ∧
          ∀ event ∈ world.store.events, event ≤ target → event ∈ world.confirmed) ∧
      (∀ target, drain.target = some target →
        drain.rounds ≤ drain.config.maxConflictRetries + world.store.upTo target + 2)) ∧
    (∀ source other request later,
      commandIdOf digest source request = commandIdOf digest other later →
      source = other ∧ request = later) ∧
    ∀ last, (projectionSystem digest runId subscription).Run world last →
      world.store.highWater ≤ last.store.highWater ∧
      ∀ target, target ≤ world.store.highWater → last.store.upTo target = world.store.upTo target := by
  have sound := ProjectionWorld.sound collisionFree reachable
  refine ⟨sound.covered, sound.closed, fun index drain running => ?_,
    fun _ _ _ _ same => commandIdOf_injective collisionFree same, fun last run => ?_⟩
  · obtain ⟨placed, bounded⟩ := sound.drains index drain running
    unfold Drain.Placed at placed
    refine ⟨fun page last sequence rest offering => ?_, fun page advanceTo attempt waiting => ?_,
      fun failure completed => ?_, fun target aimed => ?_⟩
    · rw [offering] at placed
      obtain ⟨-, -, chain, stored, -, ends, done, consecutive⟩ := placed
      refine ⟨stored sequence mem_cons_self, done, fun next first => ?_⟩
      cases rest with
      | nil => cases first
      | cons following others =>
        cases first
        obtain ⟨before_rest, chain_rest⟩ := pairwise_cons.mp chain
        refine ⟨stored next (mem_cons_of_mem _ mem_cons_self),
          before_rest next mem_cons_self, fun event member between => ?_⟩
        have bound := le_last chain (mem_cons_of_mem _ mem_cons_self) ends
        have among := consecutive event member between.1.le (between.2.le.trans bound)
        rcases mem_cons.mp among with rfl | later
        · exact lt_irrefl event between.1
        · rcases mem_cons.mp later with rfl | other
          · exact lt_irrefl event between.2
          · exact not_lt_of_gt ((pairwise_cons.mp chain_rest).1 event other) between.2
    · rw [waiting] at placed
      obtain ⟨seen, -, -, within, -, patient⟩ := placed
      obtain ⟨target, aimed⟩ := Option.isSome_iff_exists.mp (bounded.aimed (by rw [seen]; rfl))
      exact ⟨⟨target, aimed, within target aimed⟩, patient⟩
    · rw [completed] at placed
      obtain ⟨target, aimed, -, done⟩ := placed rfl
      exact ⟨target, aimed, done⟩
    · have pages := bounded.aimedPages target aimed
      have rounds := bounded.rounds
      have conflicts := bounded.conflicts
      have owed : drain.phase.owed ≤ 1 := by cases drain.phase <;> simp [DrainPhase.owed]
      omega
  · have grown : world.store.Grows last.store := by
      refine reachable.respects (fun first second => first.store.Grows second.store)
        (fun _ => .refl _) (fun start next => start.trans next) (fun _ _ _ step => ?_) run
      exact ProjectionStep.grows step
    refine ⟨grown.highWater, fun target within => ?_⟩
    unfold EventStore.upTo
    rw [grown.initial within]

end Worlds

/-! ### One drain of two events -/

instance encodableString : Encodable String :=
  .ofLeftInverse (fun text : String => text.toList.map Char.toNat)
    (fun codes : List ℕ => String.ofList (codes.map Char.ofNat)) fun text => by
      simp [Function.comp_def]

deriving instance Encodable for Json.Lexeme

/-- An injective stand-in for the digest of a text. -/
def strokeDigest (text : Json.Text) : String :=
  String.ofList (List.replicate (Encodable.encode text) 'x')

theorem strokeDigest_injective : Function.Injective strokeDigest := by
  intro left right same
  have lengths := congrArg (fun text => text.toList.length) same
  simp only [strokeDigest, String.toList_ofList, length_replicate] at lengths
  exact Encodable.encode_injective lengths

def drainedName : Identifier := ⟨"events", by decide⟩

def sampleConsumer : ConsumerConfig where
  sourceId := drainedName
  runId := drainedName
  subscription := drainedName
  pageSize := 1
  maxConflictRetries := 0
  maxAckRetries := 0
  pageFilled := le_refl 1
  pageBounded := by decide

/-- Two events are stored, a drain offers the first, and its page is about to be acknowledged. -/
theorem projections_at_least_once_sample :
    ∃ world, (projectionSystem strokeDigest drainedName drainedName).Reachable world ∧
      world.store.events = [1, 2] ∧ world.confirmed = [1] ∧
      ∃ drain, world.drains 0 = some drain ∧
        ∀ target, drain.target = some target →
          drain.rounds ≤ drain.config.maxConflictRetries + world.store.upTo target + 2 := by
  have empty : (projectionSystem strokeDigest drainedName drainedName).Reachable .start :=
    .start rfl
  have written := empty.next (.write 1 0 false (by decide : [1, 2].Pairwise (· < ·)) (by decide))
  let first := Drain.start sampleConsumer none
  let second := first.observed (some ⟨1, 0, 2, [1]⟩)
  let page : Observation := ⟨1, 0, 2, [1]⟩
  have begun := written.next
    (.begin none (rfl : _ = none) ⟨rfl, rfl⟩ : ProjectionStep strokeDigest drainedName
      drainedName _ (ProjectionWorld.moved _ 0 first))
  have observed := begun.next (@ProjectionStep.observe _ _ _ _ 0 first rfl rfl)
  have offered := observed.next
    (@ProjectionStep.offer _ _ _ _ 0 second page 1 1 [] .persisted rfl rfl)
  have proved := projections_at_least_once strokeDigest_injective offered
  exact ⟨_, offered, rfl, rfl, _, rfl, (proved.2.2.1 0 _ rfl).2.2.2⟩

end DispatcherSdk.Orchestrator
