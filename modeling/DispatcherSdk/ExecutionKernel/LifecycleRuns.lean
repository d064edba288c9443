/-
This file proves what holds of the lifecycle outbox over whole runs: what becomes of an
event after it has been appended, what becomes of a producer after it has been reserved, and
what a retired generation can no longer do.

An event is followed by its sequence number, which is never given out twice, and a producer by
its token together with its generation.
-/

import DispatcherSdk.ExecutionKernel.LifecycleMoves
import DispatcherSdk.ExecutionKernel.Reachable

namespace DispatcherSdk.ExecutionKernel

open Library Library.Checked Relation Table Option Bool List

namespace LifecycleTables

variable {tables after : LifecycleTables}

/-! ### Retired generations -/

variable {identity : LifecycleIdentity} {token : Identifier}

theorem retired_of_move (move : LifecycleMove tables after)
    (retired : tables.Retired identity) : after.Retired identity := by
  cases move with
  | retired cutoff forward quiet sequences tokens reached spent =>
    exact retired_of_forward forward retired
  | _ => exact retired

theorem reserve_of_retired (retired : tables.Retired identity)
    (call : LifecycleCall) (token : Identifier) (slots : ℕ) :
    (∃ failure, tables.reserve call identity token slots = .error failure) ∧
      ∃ failure, tables.reserveForClaim call identity token slots = .error failure := by
  have refused : ∀ next answer,
      tables.reserveInTransaction identity token slots ≠ .ok (next, answer) := by
    intro next answer passed
    unfold reserveInTransaction at passed
    obtain ⟨_, current, _⟩ := bind_eq_ok.mp passed
    exact check_eq_ok.mp current retired
  refine ⟨?_, ?_⟩
  · cases outcome : tables.reserve call identity token slots with
    | error failure => exact ⟨failure, rfl⟩
    | ok answer =>
      unfold reserve at outcome
      simp only [bind_eq_ok] at outcome
      obtain ⟨_, _, current, _, _, _, questions, _, ⟨next, reserved⟩, made, _⟩ := outcome
      exact absurd made (refused next reserved)
  · cases outcome : tables.reserveForClaim call identity token slots with
    | error failure => exact ⟨failure, rfl⟩
    | ok answer =>
      unfold reserveForClaim at outcome
      simp only [bind_eq_ok] at outcome
      obtain ⟨_, _, questions, _, ⟨next, reserved⟩, made, _⟩ := outcome
      exact absurd made (refused next reserved)

theorem retireGeneration_retires {call : LifecycleCall} {cutoff : LifecycleIdentity} {limit : ℕ}
    {answer : Retirement} (passed : tables.retireGeneration call cutoff limit = .ok (after, answer))
    (same : identity.executionId = cutoff.executionId)
    (below : identity.generation ≤ cutoff.generation) : after.Retired identity := by
  unfold retireGeneration at passed
  simp only [passes_iff] at passed
  obtain ⟨_, _, _, _, _, _, _, _, _, _, _, _, passed⟩ := passed
  rw [(commit_eq_ok.mp passed).2.1]
  refine retired_collected.mpr ?_
  rw [if_pos same]
  exact below

/-! ### The slots of a producer -/

/-- Whoever has a token in a generation, with the slots that were reserved. -/
structure Reserves (token : Identifier) (identity : LifecycleIdentity) (slots : ℕ)
    (tables : LifecycleTables) : Prop where
  stays : tables.Retired identity ∨
    ∃ producer, tables.producers.find? token = some producer ∧ producer.identity = identity ∧
      tables.ordinary token ≤ slots ∧ (producer.opened = true → producer.slots = slots)

variable {producer : Producer}

theorem find?_closed {name : Identifier} (found : tables.producers.find? name = some producer)
    (token : Identifier) :
    (tables.close token).producers.find? name =
      some (if producer.token = token then producer.closed else producer) := by
  rw [find?_close, found, map_some]

theorem Reserves.move {slots : ℕ}
    (sound : tables.Sound) (reserves : Reserves token identity slots tables)
    (move : LifecycleMove tables after) : Reserves token identity slots after := by
  obtain ⟨gone | ⟨producer, found, own, bounded, given⟩⟩ := reserves
  · exact ⟨Or.inl (retired_of_move move gone)⟩
  refine ⟨?_⟩
  cases move with
  | stayed => exact .inr ⟨producer, found, own, bounded, given⟩
  | reserved other fresh opened current room =>
    have differs : token ≠ other.token := by
      rintro rfl
      rw [fresh] at found
      cases found
    exact .inr ⟨producer, (find?_reserved differs).trans found, own, bounded, given⟩
  | appended other owner opened room eventId phase payload fresh ordinary =>
    refine Or.inr ⟨producer, found, own, ?_, given⟩
    show List.countP _ (tables.inserted _ _ _ _).outbox.rows ≤ _
    rw [sound.inserted_rows, countP_cons]
    split
    · rename_i counted
      simp only [nextEvent, and_eq_true] at counted
      have same : other.token = token := of_decide_eq_true counted.1.1
      rw [same, found] at owner
      cases owner
      have left := Nat.lt_of_le_of_lt (ordinary_le_pending producer.token) room
      rw [given opened, same] at left
      exact left
    · exact bounded
  | delivered event stored retained other owner oldest =>
    refine Or.inr ⟨producer, found, own, Nat.le_trans ?_ bounded, given⟩
    refine (deliver_rewrites event.sequence event.eventId).countP_le _ fun old selected _ => ?_
    split at selected <;> exact selected
  | pruned sequences =>
    refine Or.inr ⟨producer, found, own, Nat.le_trans ?_ bounded, given⟩
    refine (prune_rewrites sequences).countP_le _ fun old selected _ => ?_
    split at selected <;> exact selected
  | closed other owner =>
    refine Or.inr ⟨_, find?_closed found other.token, ?_, bounded, ?_⟩
    · split <;> exact own
    · split
      · rintro ⟨⟩
      · exact given
  | recovered other owner opened eventId fresh =>
    refine Or.inr ⟨_, find?_closed found other.token, ?_, ?_, ?_⟩
    · split <;> exact own
    · show List.countP _ (tables.inserted _ _ _ _).outbox.rows ≤ _
      rw [sound.inserted_rows, countP_cons, if_neg]
      · exact bounded
      · simp [nextEvent, LifecycleEvent.marker]
    · split
      · rintro ⟨⟩
      · exact given
  | retired cutoff forward quiet sequences tokens reached spent =>
    by_cases taken : producer.token ∈ tokens ∧ producer.opened = false
    · have inside := within_iff.mp (spent producer (mem_of_find? found) taken.1).1
      refine Or.inl (retired_collected.mpr ?_)
      rw [← own, if_pos inside.1]
      exact inside.2
    · refine Or.inr ⟨producer, find?_collected.mpr ⟨found, taken⟩, own, ?_, given⟩
      exact Nat.le_trans filter_sublist.countP_le bounded

theorem Reserves.bounds {slots : ℕ}
    (sound : tables.Sound) (reserves : Reserves token identity slots tables)
    (found : tables.producers.find? token = some producer) (own : producer.identity = identity) :
    tables.ordinary token ≤ slots ∧ (producer.opened = true → producer.slots = slots) := by
  obtain ⟨gone | ⟨other, owner, _, bounded, given⟩⟩ := reserves
  · obtain ⟨closed, delivered⟩ := sound.quiet producer (mem_of_find? found) (own.symm ▸ gone)
    have none : tables.ordinary token = 0 := by
      refine countP_eq_zero.mpr fun event stored counted => ?_
      simp only [and_eq_true, decide_eq_true_eq, not_eq_true'] at counted
      obtain ⟨⟨named, waiting⟩, _⟩ := counted
      rw [delivered event stored (named.trans (key_of_find? found).symm)] at waiting
      cases waiting
    refine ⟨none ▸ Nat.zero_le _, fun opened => ?_⟩
    rw [closed] at opened
    cases opened
  · rw [found] at owner
    cases owner
    exact ⟨bounded, given⟩

end LifecycleTables

namespace LifecycleTables

variable {tables after : LifecycleTables}

/-! ### The record of an event -/

/-- The generation whose producer holds a token. -/
def holder (tables : LifecycleTables) (token : Identifier) : Option LifecycleIdentity :=
  (tables.producers.find? token).map Producer.identity

/-- The same event, whose payload may have been pruned. -/
structure Copy (original event : LifecycleEvent) : Prop where
  sequence : event.sequence = original.sequence
  token : event.token = original.token
  eventId : event.eventId = original.eventId
  phase : event.phase = original.phase
  payload : event.payload = original.payload ∨ event.payload = none

/-- An event that a generation has appended is still stored, or it has been collected with
everything of this generation. -/
structure Records (identity : LifecycleIdentity) (original : LifecycleEvent)
    (tables : LifecycleTables) : Prop where
  numbered : original.sequence ≤ tables.lastSequence
  same : ∀ event ∈ tables.outbox, event.sequence = original.sequence →
    Copy original event ∧ tables.holder event.token = some identity
  stays : (∃ event ∈ tables.outbox, event.sequence = original.sequence) ∨
    (tables.Retired identity ∧ ∀ event ∈ tables.outbox, event.eventId = original.eventId →
      tables.holder event.token ≠ some identity)

theorem holder_close (token name : Identifier) :
    (tables.close token).holder name = tables.holder name := by
  unfold holder
  rw [find?_close, Option.map_map]
  congr 1
  funext producer
  show (if _ then producer.closed else producer).identity = _
  split <;> rfl

variable {token : Identifier}

variable {producer : Producer}

theorem holder_reserved (other : token ≠ producer.token) :
    holder { tables with producers := tables.producers.put producer } token =
      tables.holder token := by
  unfold holder
  rw [find?_reserved other]

theorem holder_of_find? (found : tables.producers.find? token = some producer) :
    tables.holder token = some producer.identity := by
  unfold holder
  rw [found, map_some]

theorem Sound.open_current (sound : tables.Sound)
    (found : tables.producers.find? producer.token = some producer)
    (opened : producer.opened = true) {identity : LifecycleIdentity}
    (retired : tables.Retired identity) : tables.holder producer.token ≠ some identity := by
  rw [holder_of_find? found]
  intro own
  have closed := (sound.quiet producer (mem_of_find? found) (Option.some.inj own ▸ retired)).1
  rw [opened] at closed
  cases closed

variable {identity : LifecycleIdentity} {original : LifecycleEvent}

variable {eventId phase : Identifier}

theorem Records.inserted (sound : tables.Sound) (records : Records identity original tables)
    (found : tables.producers.find? producer.token = some producer)
    (opened : producer.opened = true) {payload : Json.Text} :
    Records identity original (tables.inserted producer.token eventId phase payload) := by
  obtain ⟨numbered, same, stays⟩ := records
  refine ⟨Nat.le_succ_of_le numbered, fun event stored equal => ?_, ?_⟩
  · rcases sound.mem_inserted.mp stored with rfl | old
    · have above : tables.lastSequence + 1 = original.sequence := equal
      omega
    · exact same event old equal
  · refine stays.imp (fun ⟨event, stored, equal⟩ => ?_) fun ⟨retired, others⟩ => ?_
    · exact ⟨event, sound.mem_inserted.mpr (.inr stored), equal⟩
    · refine ⟨retired, fun event stored named => ?_⟩
      rcases sound.mem_inserted.mp stored with rfl | old
      · exact sound.open_current found opened retired
      · exact others event old named

theorem Records.closed (records : Records identity original tables) (token : Identifier) :
    Records identity original (tables.close token) := by
  obtain ⟨numbered, same, stays⟩ := records
  refine ⟨numbered, fun event stored equal => ?_, stays.imp id fun ⟨retired, others⟩ =>
    ⟨retired, fun event stored named => ?_⟩⟩
  · rw [holder_close]
    exact same event stored equal
  · rw [holder_close]
    exact others event stored named

theorem Records.rewritten (records : Records identity original tables)
    {change : LifecycleEvent → LifecycleEvent} (rewrites : Rewrites change)
    (payload : ∀ event, (change event).payload = event.payload ∨ (change event).payload = none) :
    Records identity original (tables.rewritten rewrites) := by
  obtain ⟨numbered, same, stays⟩ := records
  refine ⟨numbered, fun event stored equal => ?_, stays.imp (fun ⟨event, stored, equal⟩ => ?_)
    fun ⟨retired, others⟩ => ⟨retired, fun event stored named => ?_⟩⟩
  · obtain ⟨old, kept, rfl⟩ := mem_rewritten.mp stored
    rw [rewrites.sequence] at equal
    obtain ⟨copy, held⟩ := same old kept equal
    refine ⟨⟨(rewrites.sequence old).trans copy.sequence, (rewrites.token old).trans copy.token,
      (rewrites.eventId old).trans copy.eventId, (rewrites.phase old).trans copy.phase, ?_⟩, ?_⟩
    · rcases payload old with unchanged | gone
      · rw [unchanged]
        exact copy.payload
      · exact .inr gone
    · rw [rewrites.token]
      exact held
  · exact ⟨change event, mem_rewritten.mpr ⟨event, stored, rfl⟩,
      (rewrites.sequence event).trans equal⟩
  · obtain ⟨old, kept, rfl⟩ := mem_rewritten.mp stored
    rw [rewrites.eventId] at named
    rw [rewrites.token]
    exact others old kept named

variable {cutoff : LifecycleIdentity} {sequences : List ℕ} {tokens : List Identifier}

theorem holder_collected
    (held : (tables.collected cutoff sequences tokens).holder token = some identity) :
    tables.holder token = some identity := by
  unfold holder at held ⊢
  rw [map_eq_some_iff] at held ⊢
  obtain ⟨producer, found, own⟩ := held
  exact ⟨producer, (find?_collected.mp found).1, own⟩

theorem Records.collected (sound : tables.Sound) (records : Records identity original tables)
    (kept : (tables.collected cutoff sequences tokens).Sound)
    (forward : ∀ old ∈ tables.retired.find? cutoff.executionId,
      old.generation ≤ cutoff.generation)
    (reached : ∀ event ∈ tables.outbox, event.sequence ∈ sequences →
      tables.reaches cutoff event = true) :
    Records identity original (tables.collected cutoff sequences tokens) := by
  obtain ⟨numbered, same, stays⟩ := records
  refine ⟨numbered, fun event stored equal => ?_, ?_⟩
  · have old := (mem_collected_events.mp stored).1
    obtain ⟨copy, held⟩ := same event old equal
    obtain ⟨producer, found⟩ := kept.owned event stored
    have before := holder_of_find? (find?_collected.mp found).1
    rw [held] at before
    exact ⟨copy, (holder_of_find? found).trans before.symm⟩
  · rcases stays with ⟨event, stored, equal⟩ | ⟨retired, others⟩
    · by_cases gone : event.sequence ∈ sequences ∧ event.delivered = true
      · right
        obtain ⟨copy, held⟩ := same event stored equal
        obtain ⟨producer, found, inside⟩ :=
          (any_eq_true _ _).mp (reached event stored gone.1)
        rw [holder_of_find? found] at held
        have own := Option.some.inj held
        obtain ⟨execution, below⟩ := of_decide_eq_true inside
        refine ⟨retired_collected.mpr ?_, fun other left named => ?_⟩
        · rw [← own, if_pos execution]
          exact below
        · obtain ⟨old, remains⟩ := mem_collected_events.mp left
          have equal := sound.identified other old event stored (named.trans copy.eventId.symm)
          rw [equal] at remains
          exact absurd gone remains
      · exact .inl ⟨event, mem_collected_events.mpr ⟨stored, gone⟩, equal⟩
    · exact .inr ⟨retired_of_forward forward retired, fun event left named held =>
        others event (mem_collected_events.mp left).1 named (holder_collected held)⟩

theorem Records.move (sound : tables.Sound) (records : Records identity original tables)
    (move : LifecycleMove tables after) : Records identity original after := by
  have kept := move.sound sound
  cases move with
  | stayed => exact records
  | reserved producer fresh opened current room =>
    have other : ∀ event ∈ tables.outbox, event.token ≠ producer.token := sound.token_used fresh
    obtain ⟨numbered, same, stays⟩ := records
    refine ⟨numbered, fun event stored equal => ?_, stays.imp id fun ⟨retired, others⟩ =>
      ⟨retired, fun event stored named => ?_⟩⟩
    · rw [holder_reserved (other event stored)]
      exact same event stored equal
    · rw [holder_reserved (other event stored)]
      exact others event stored named
  | appended producer found opened room eventId phase payload fresh ordinary =>
    exact records.inserted sound found opened
  | delivered event stored retained producer found oldest =>
    refine records.rewritten (deliver_rewrites event.sequence event.eventId) fun other => Or.inl ?_
    split <;> rfl
  | pruned sequences =>
    refine records.rewritten (prune_rewrites sequences) fun event => ?_
    split
    · exact .inr rfl
    · exact .inl rfl
  | closed producer found => exact records.closed producer.token
  | recovered producer found opened eventId fresh =>
    exact (records.inserted sound found opened).closed producer.token
  | retired cutoff forward quiet sequences tokens reached spent =>
    exact records.collected sound kept forward reached

/-! ### Appending again -/

theorem eventOf_eq_some (sound : tables.Sound) {event : LifecycleEvent}
    (stored : event ∈ tables.outbox) : tables.eventOf event.eventId = some event := by
  unfold eventOf
  cases found : tables.outbox.rows.find? fun other => other.eventId = event.eventId with
  | none => exact absurd (List.find?_eq_none.mp found event stored) (by simp)
  | some other =>
    have named : other.eventId = event.eventId := by simpa using List.find?_some found
    rw [sound.identified other (mem_of_find?_eq_some found) event stored named]

theorem append_stores (sound : tables.Sound) {call : LifecycleCall} {payload : List (String × Json)}
    {expected : Option LifecycleIdentity} {sequence : ℕ} {delivered : Bool}
    (passed : tables.append call token eventId phase payload expected =
      .ok (after, sequence, delivered)) :
    (token.text.length ≤ 256 ∧ eventId.text.length ≤ 256 ∧ phase.text.length ≤ 256) ∧
      phase ≠ LifecycleEvent.recoveryPhase ∧
      call.bytes (Json.encode (.object payload)) ≤ 1048576 ∧
      ∃ producer, tables.producers.find? token = some producer ∧
        Records producer.identity ⟨sequence, token, eventId, phase,
          some (Json.encode (.object payload)), delivered⟩ after := by
  unfold append at passed
  simp only [passes_iff] at passed
  obtain ⟨short, ordinary, small, producer, found, _, _, questions, _, passed⟩ := passed
  refine ⟨short, ordinary, small, producer, found, ?_⟩
  have held := holder_of_find? found
  split at passed
  · rename_i event known
    simp only [passes_iff] at passed
    obtain ⟨payload, retained, ⟨rfl, rfl, rfl⟩, passed⟩ := passed
    obtain ⟨_, rfl, answered⟩ := commit_eq_ok.mp passed
    obtain ⟨rfl, rfl⟩ := Prod.mk.inj answered
    have stored : event ∈ after.outbox := mem_of_find?_eq_some known
    have named : event.eventId = eventId := by simpa using List.find?_some known
    refine ⟨sound.numbered event stored, fun other kept equal => ?_, Or.inl ⟨event, stored, rfl⟩⟩
    rw [event_of_sequence kept stored equal]
    exact ⟨⟨rfl, rfl, named, rfl, Or.inl retained⟩, held⟩
  · rename_i fresh
    simp only [passes_iff] at passed
    obtain ⟨opened, room, passed⟩ := passed
    obtain ⟨_, rfl, answered⟩ := commit_eq_ok.mp passed
    obtain ⟨rfl, rfl⟩ := Prod.mk.inj answered
    refine ⟨Nat.le_refl _, fun other kept equal => ?_,
      Or.inl ⟨_, sound.mem_inserted.mpr (.inl rfl), rfl⟩⟩
    rcases sound.mem_inserted.mp kept with rfl | old
    · exact ⟨⟨rfl, rfl, rfl, rfl, Or.inl rfl⟩, held⟩
    · have bound := sound.numbered other old
      have above : other.sequence = tables.lastSequence + 1 := equal
      omega

end LifecycleTables

namespace LifecycleTables

variable {tables after : LifecycleTables} {identity : LifecycleIdentity}
  {original : LifecycleEvent}

theorem not_retired_of_nil (none : tables.retired.rows = []) : ¬ tables.Retired identity := by
  rintro ⟨cutoff, stored, _⟩
  have member : cutoff ∈ tables.retired.rows := mem_of_find? stored
  rw [none] at member
  cases member

variable {call : LifecycleCall} {payload : List (String × Json)}
  {expected : Option LifecycleIdentity}

theorem Records.append_again (sound : tables.Sound) (records : Records identity original tables)
    {phase : Identifier} (qualified : expected = none ∨ expected = some identity) {sequence : ℕ}
    {delivered : Bool}
    (passed : tables.append call original.token original.eventId phase payload expected =
      .ok (after, sequence, delivered)) :
    after = tables ∧ sequence = original.sequence := by
  unfold append at passed
  simp only [passes_iff] at passed
  obtain ⟨_, _, _, producer, found, _, qualifies, questions, _, passed⟩ := passed
  have own : tables.Retired identity → producer.identity = identity := by
    intro gone
    unfold qualifyToken at qualifies
    rcases qualified with rfl | rfl
    · exact absurd gone (not_retired_of_nil (check_eq_ok.mp qualifies))
    · exact (check_eq_ok.mp qualifies).symm
  split at passed
  · rename_i event known
    simp only [passes_iff] at passed
    obtain ⟨stored, _, ⟨named, _⟩, passed⟩ := passed
    obtain ⟨_, unchanged, answered⟩ := commit_eq_ok.mp passed
    refine ⟨unchanged, (Prod.mk.inj answered).1.trans ?_⟩
    have member : event ∈ tables.outbox := mem_of_find?_eq_some known
    have identified : event.eventId = original.eventId := by simpa using List.find?_some known
    rcases records.stays with ⟨other, kept, equal⟩ | ⟨gone, others⟩
    · have copy := (records.same other kept equal).1
      rw [← sound.identified other kept event member (copy.eventId.trans identified.symm)]
      exact equal
    · refine absurd ?_ (others event member identified)
      rw [named, holder_of_find? found, own gone]
  · rename_i fresh
    simp only [passes_iff] at passed
    obtain ⟨opened, _⟩ := passed
    rcases records.stays with ⟨other, kept, equal⟩ | ⟨gone, _⟩
    · have copy := (records.same other kept equal).1
      exact absurd copy.eventId (eventOf_none fresh other kept)
    · have closed := (sound.quiet producer (mem_of_find? found) ((own gone).symm ▸ gone)).1
      rw [opened] at closed
      cases closed

variable {event : LifecycleEvent}

theorem Records.append_answers (sound : tables.Sound) (records : Records identity original tables)
    (written : original.payload = some (Json.encode (.object payload)))
    (short : original.token.text.length ≤ 256 ∧ original.eventId.text.length ≤ 256 ∧
      original.phase.text.length ≤ 256) (ordinary : original.phase ≠ LifecycleEvent.recoveryPhase)
    (small : call.bytes (Json.encode (.object payload)) ≤ 1048576)
    (qualified : expected = some identity ∨ (expected = none ∧ tables.retired.rows = []))
    {questions : List LifecycleQuestion} (permitted : call.authorize identity .append
      (.event original.token original.eventId original.phase (Json.encode (.object payload))) =
        .ok questions) (confirmed : ∀ question ∈ questions, call.confirm question = .ok ())
    (stored : event ∈ tables.outbox) (same : event.sequence = original.sequence)
    (retained : event.payload.isSome = true) :
    tables.append call original.token original.eventId original.phase payload expected =
      .ok (tables, original.sequence, event.delivered) := by
  obtain ⟨copy, held⟩ := records.same event stored same
  obtain ⟨producer, found, own⟩ := map_eq_some_iff.mp held
  have known := eventOf_eq_some sound stored
  have kept : event.payload = some (Json.encode (.object payload)) := by
    rcases copy.payload with unchanged | gone
    · exact unchanged.trans written
    · rw [gone] at retained
      cases retained
  have qualifies : tables.qualifyToken producer.identity expected = .ok () := by
    unfold qualifyToken
    rcases qualified with rfl | ⟨rfl, none⟩
    · exact check_eq_ok.mpr own.symm
    · exact check_eq_ok.mpr none
  unfold append
  simp only [passes_iff]
  refine ⟨short, ordinary, small, producer, copy.token ▸ found, (), qualifies, questions,
    own.symm ▸ permitted, ?_⟩
  rw [← copy.eventId, known]
  simp only [passes_iff]
  exact ⟨_, kept, ⟨copy.token, copy.phase, rfl⟩, commit_eq_ok.mpr ⟨confirmed, rfl, by rw [same]⟩⟩

/-! ### The course of an undelivered event -/

theorem event_of_move (sound : tables.Sound) (move : LifecycleMove tables after)
    (stored : event ∈ tables.outbox) (waiting : event.delivered = false) :
    event ∈ after.outbox ∨ event.acknowledged ∈ after.outbox := by
  cases move with
  | stayed => exact .inl stored
  | reserved producer fresh opened current room => exact .inl stored
  | appended producer found opened room eventId phase payload fresh ordinary =>
    exact .inl (sound.mem_inserted.mpr (.inr stored))
  | delivered other kept retained producer found oldest =>
    by_cases here : event.sequence = other.sequence ∧ event.eventId = other.eventId
    · exact .inr ((@mem_rewritten _ _ (deliver_rewrites _ _) _).mpr
        ⟨event, stored, if_pos here⟩)
    · exact .inl ((@mem_rewritten _ _ (deliver_rewrites _ _) _).mpr
        ⟨event, stored, if_neg here⟩)
  | pruned sequences =>
    refine Or.inl ((@mem_rewritten _ _ (prune_rewrites sequences) _).mpr
      ⟨event, stored, if_neg fun gone => ?_⟩)
    rw [waiting] at gone
    cases gone.2
  | closed producer found => exact .inl stored
  | recovered producer found opened eventId fresh =>
    exact .inl (sound.mem_inserted.mpr (.inr stored))
  | retired cutoff forward quiet sequences tokens reached spent =>
    refine Or.inl (mem_collected_events.mpr ⟨stored, fun gone => ?_⟩)
    rw [waiting] at gone
    cases gone.2

theorem event_of_run (reachable : lifecycleOutbox.Reachable tables)
    (stored : event ∈ tables.outbox) (waiting : event.delivered = false) {last : LifecycleTables}
    (run : lifecycleOutbox.Run tables last) :
    event ∈ last.outbox ∨ ∃ middle, lifecycleOutbox.Run tables middle ∧
      lifecycleOutbox.Run middle last ∧ event.acknowledged ∈ middle.outbox := by
  induction run with
  | refl => exact .inl stored
  | @tail before next earlier step hypothesis =>
    rcases hypothesis with present | ⟨middle, first, second, gone⟩
    · obtain ⟨operation, call, passed⟩ := step
      have sound := lifecycleOutbox_sound (reachable.run earlier)
      refine (event_of_move sound (LifecycleOperation.moves passed) present waiting).imp id
        fun gone => ⟨next, earlier.tail ⟨operation, call, passed⟩, .refl, gone⟩
    · exact .inr ⟨middle, first, second.tail step, gone⟩

/-! ### Ordering and capacity -/

theorem Sound.delivered_isPrefix (sound : tables.Sound) (executionId : Identifier) :
    (tables.events (tables.belongs executionId)).filter LifecycleEvent.delivered <+:
      tables.events (tables.belongs executionId) := by
  refine filter_isPrefix ?_
  have sorted : (tables.events (tables.belongs executionId)).Pairwise fun early late =>
      early.sequence ≤ late.sequence :=
    pairwise_insertionSort _ _
  refine sorted.imp_of_mem fun {early late} first second before delivered => ?_
  obtain ⟨earlyStored, left⟩ := mem_events.mp first
  obtain ⟨lateStored, right⟩ := mem_events.mp second
  rcases Nat.lt_or_eq_of_le before with less | equal
  · exact sound.ordered early earlyStored late lateStored executionId left right less delivered
  · rw [event_of_sequence earlyStored lateStored equal]
    exact delivered

theorem Sound.within_capacity (sound : tables.Sound) :
    tables.usage + tables.pendingClosed ≤ 8192 + tables.markers := by
  have split : tables.pendingClosed ≤ tables.orphans + tables.markers := by
    refine countP_le_add fun event _ counted => ?_
    simp only [and_eq_true, not_eq_true'] at counted ⊢
    cases own : event.marker with
    | true => exact .inr ⟨rfl, counted.2⟩
    | false => exact .inl ⟨counted, rfl⟩
  have held := sound.capacity
  omega

theorem opened_before (reachable : lifecycleOutbox.Reachable tables) :
    ∀ producer ∈ tables.producers, ∃ first, lifecycleOutbox.Reachable first ∧
      lifecycleOutbox.Run first tables ∧ ∃ earlier ∈ first.producers, earlier.opened = true ∧
        earlier.token = producer.token ∧ earlier.identity = producer.identity := by
  refine reachable.invariant (fun tables => ∀ producer ∈ tables.producers, ∃ first,
    lifecycleOutbox.Reachable first ∧ lifecycleOutbox.Run first tables ∧
      ∃ earlier ∈ first.producers, earlier.opened = true ∧ earlier.token = producer.token ∧
        earlier.identity = producer.identity) ?_ fun before next early held step => ?_
  · rintro _ rfl producer member
    exact absurd member not_mem_nil
  have known : ∀ producer ∈ before.producers, ∀ later : Producer,
      later.token = producer.token → later.identity = producer.identity → ∃ first,
        lifecycleOutbox.Reachable first ∧ lifecycleOutbox.Run first next ∧
          ∃ earlier ∈ first.producers, earlier.opened = true ∧ earlier.token = later.token ∧
            earlier.identity = later.identity := by
    intro producer stored later named own
    obtain ⟨first, start, run, earlier, member, opened, token, identity⟩ := held producer stored
    exact ⟨first, start, run.tail step, earlier, member, opened, token.trans named.symm,
      identity.trans own.symm⟩
  intro producer stored
  obtain ⟨operation, call, passed⟩ := id step
  cases LifecycleOperation.moves passed with
  | stayed => exact known producer stored producer rfl rfl
  | reserved other fresh opened current room =>
    rcases mem_put.mp stored with rfl | ⟨old, _⟩
    · exact ⟨_, early.next step, .refl, producer, stored, opened, rfl, rfl⟩
    · exact known producer old producer rfl rfl
  | appended other found opened room eventId phase payload fresh ordinary =>
    exact known producer stored producer rfl rfl
  | delivered event kept retained other found oldest =>
    exact known producer stored producer rfl rfl
  | pruned sequences => exact known producer stored producer rfl rfl
  | closed other found =>
    obtain ⟨old, kept, rfl⟩ := mem_close.mp stored
    refine known old kept _ ?_ ?_ <;> split <;> rfl
  | recovered other found opened eventId fresh =>
    obtain ⟨old, kept, rfl⟩ := mem_close.mp stored
    refine known old kept _ ?_ ?_ <;> split <;> rfl
  | retired cutoff forward quiet sequences tokens reached spent =>
    exact known producer (mem_collected_producers.mp stored).1 producer rfl rfl

end LifecycleTables

/-! ### The laws of the outbox -/

/-- What the lifecycle outbox promises in a state, for everything that may happen after it. -/
structure LifecycleTables.Lawful (tables : LifecycleTables) : Prop where
  /-- The delivered events of an execution are a prefix of its events. -/
  delivered_first : ∀ executionId,
    (tables.events (tables.belongs executionId)).filter LifecycleEvent.delivered <+:
      tables.events (tables.belongs executionId)
  /-- An undelivered event has its payload, and it stays as it is until it is delivered with it. -/
  undelivered_kept : ∀ event ∈ tables.outbox, event.delivered = false →
    event.payload.isSome = true ∧ ∀ last, lifecycleOutbox.Run tables last →
      event ∈ last.outbox ∨ ∃ middle, lifecycleOutbox.Run tables middle ∧
        lifecycleOutbox.Run middle last ∧ event.acknowledged ∈ middle.outbox
  /-- A producer never has more undelivered events of its own than it had slots, and every producer
  was open once. -/
  slots_bound : ∀ producer ∈ tables.producers, producer.opened = true →
    ∀ last, lifecycleOutbox.Run tables last → ∀ later ∈ last.producers,
      later.token = producer.token → later.identity = producer.identity →
        last.ordinary later.token ≤ producer.slots ∧
          (later.opened = true → later.slots = producer.slots)
  opened_before : ∀ producer ∈ tables.producers, ∃ first, lifecycleOutbox.Reachable first ∧
    lifecycleOutbox.Run first tables ∧ ∃ earlier ∈ first.producers, earlier.opened = true ∧
      earlier.token = producer.token ∧ earlier.identity = producer.identity
  /-- The slots of open producers and the undelivered events of closed ones share the capacity. -/
  capacity : tables.usage + tables.pendingClosed ≤ 8192 + tables.markers
  /-- A repeated append for the same generation stores nothing, and answers the number of the event
  while that is stored. -/
  append_again : ∀ call token eventId phase payload expected after sequence delivered,
    tables.append call token eventId phase payload expected = .ok (after, sequence, delivered) →
      ∃ identity, tables.holder token = some identity ∧
        ∀ last, lifecycleOutbox.Run after last → ∀ again expected,
          (expected = none ∨ expected = some identity →
            ∀ result number flag,
              last.append again token eventId phase payload expected = .ok (result, number, flag) →
                result = last ∧ number = sequence) ∧
          ((expected = some identity ∨ (expected = none ∧ last.retired.rows = [])) →
            again.bytes = call.bytes →
              ∀ questions, again.authorize identity .append
                  (.event token eventId phase (Json.encode (.object payload))) = .ok questions →
                (∀ question ∈ questions, again.confirm question = .ok ()) →
                  ∀ event ∈ last.outbox, event.sequence = sequence →
                    event.payload.isSome = true →
                      last.append again token eventId phase payload expected =
                        .ok (last, sequence, event.delivered))
  /-- Nothing at or below a retired generation is ever reserved again. -/
  retired_closed : ∀ call cutoff limit after answer,
    tables.retireGeneration call cutoff limit = .ok (after, answer) →
      ∀ last, lifecycleOutbox.Run after last → ∀ identity,
        identity.executionId = cutoff.executionId → identity.generation ≤ cutoff.generation →
          ∀ again token slots,
            (∃ failure, last.reserve again identity token slots = .error failure) ∧
              ∃ failure, last.reserveForClaim again identity token slots = .error failure

/-- The lifecycle outbox keeps its promises in every state of every run. -/
theorem lifecycleOutbox_lawful {tables : LifecycleTables}
    (reachable : lifecycleOutbox.Reachable tables) : tables.Lawful where
  delivered_first := (lifecycleOutbox_sound reachable).delivered_isPrefix
  undelivered_kept event stored waiting :=
    ⟨(lifecycleOutbox_sound reachable).retained event stored waiting,
      fun _ run => LifecycleTables.event_of_run reachable stored waiting run⟩
  slots_bound producer stored opened last run later kept named own := by
    have sound := lifecycleOutbox_sound reachable
    have found := find?_key stored
    have first : LifecycleTables.Reserves producer.token producer.identity producer.slots tables :=
      ⟨Or.inr ⟨producer, found, rfl, sound.bounded producer stored opened, fun _ => rfl⟩⟩
    have reserves : LifecycleTables.Reserves producer.token producer.identity producer.slots last := by
      refine reachable.keeps _ (fun before next early held step => ?_) first run
      obtain ⟨operation, call, passed⟩ := step
      exact held.move (lifecycleOutbox_sound early) (LifecycleOperation.moves passed)
    rw [named]
    exact reserves.bounds (lifecycleOutbox_sound (reachable.run run)) (named ▸ find?_key kept) own
  opened_before := LifecycleTables.opened_before reachable
  capacity := (lifecycleOutbox_sound reachable).within_capacity
  append_again call token eventId phase payload expected after sequence delivered passed := by
    obtain ⟨short, ordinary, small, producer, found, first⟩ :=
      LifecycleTables.append_stores (lifecycleOutbox_sound reachable) passed
    refine ⟨producer.identity, LifecycleTables.holder_of_find? found, fun last run again expected => ?_⟩
    have next : lifecycleOutbox.Reachable after :=
      reachable.next ⟨.append token eventId phase payload _, call, map_eq_ok.mpr ⟨_, passed, rfl⟩⟩
    have sound := lifecycleOutbox_sound (next.run run)
    have records := next.keeps _ (fun before later early held step => by
      obtain ⟨operation, call, passed⟩ := step
      exact held.move (lifecycleOutbox_sound early) (LifecycleOperation.moves passed)) first run
    refine ⟨fun qualified result number flag answered => ?_,
      fun qualified same questions permitted confirmed event stored equal retained => ?_⟩
    · exact records.append_again sound qualified answered
    · exact records.append_answers sound rfl short ordinary (same ▸ small) qualified permitted
        confirmed stored equal retained
  retired_closed call cutoff limit after answer passed last run identity same below := by
    have next : lifecycleOutbox.Reachable after :=
      reachable.next ⟨.retire cutoff limit, call, map_eq_ok.mpr ⟨_, passed, rfl⟩⟩
    have gone := LifecycleTables.retireGeneration_retires passed same below
    have retired : last.Retired identity := by
      refine next.keeps (fun tables => tables.Retired identity)
        (fun before later early held step => ?_) gone run
      obtain ⟨operation, call, passed⟩ := step
      exact LifecycleTables.retired_of_move (LifecycleOperation.moves passed) held
    exact LifecycleTables.reserve_of_retired retired

/-! ### A run -/

/-- The state after a call, which a failed call leaves alone. -/
def LifecycleOperation.outcome (call : LifecycleCall) (tables : LifecycleTables)
    (operation : LifecycleOperation) : LifecycleTables :=
  match operation.run call tables with
  | .ok after => after
  | .error _ => tables

theorem LifecycleOperation.run_outcomes (call : LifecycleCall)
    (operations : List LifecycleOperation) (tables : LifecycleTables) :
    lifecycleOutbox.Run tables (operations.foldl (LifecycleOperation.outcome call) tables) := by
  induction operations generalizing tables with
  | nil => exact .refl
  | cons operation rest hypothesis =>
    refine ReflTransGen.trans ?_ (hypothesis (operation.outcome call tables))
    unfold LifecycleOperation.outcome
    cases passed : operation.run call tables with
    | error failure => exact .refl
    | ok after => exact .single ⟨operation, call, passed⟩

def sampleLifecycleCall : LifecycleCall where
  executions _ := some (1, 1)
  leased _ := false
  membership _ := none
  verifier := none
  confirmation _ := none
  timestamp := 0
  commitTimestamp _ := 0
  storeId := sampleName
  bytes := List.length
  uuid := ⟨"marker", by decide⟩

def sampleAppended : LifecycleTables :=
  [.reserve ⟨sampleName, 1, 1⟩ sampleName 2, .append sampleName sampleName sampleName [] none].foldl
    (LifecycleOperation.outcome sampleLifecycleCall) .empty

def samplePruned : LifecycleTables :=
  [.ack 1 sampleName, .prune 1 0 1].foldl (LifecycleOperation.outcome sampleLifecycleCall)
    sampleAppended

theorem lifecycleOutbox_lawful_sample :
    sampleAppended.Lawful ∧ samplePruned.Lawful ∧ sampleAppended.usage = 2 := by
  have first : lifecycleOutbox.Reachable sampleAppended :=
    (TransitionSystem.Reachable.start rfl).run
      (LifecycleOperation.run_outcomes sampleLifecycleCall _ .empty)
  have second : lifecycleOutbox.Reachable samplePruned :=
    first.run (LifecycleOperation.run_outcomes sampleLifecycleCall _ sampleAppended)
  exact ⟨lifecycleOutbox_lawful first, lifecycleOutbox_lawful second, by decide +kernel⟩

/-- A repeated append with identical content is refused once the payload has been pruned. -/
theorem lifecycleOutbox_append_pruned :
    lifecycleOutbox.Reachable sampleAppended ∧
      sampleAppended.append sampleLifecycleCall sampleName sampleName sampleName [] none =
        .ok (sampleAppended, 1, false) ∧
      lifecycleOutbox.Run sampleAppended samplePruned ∧
      samplePruned.append sampleLifecycleCall sampleName sampleName sampleName [] none =
        .error (.lifecycleReceiptExpired "lifecycle receipt payload expired after delivery") := by
  refine ⟨(TransitionSystem.Reachable.start rfl).run
      (LifecycleOperation.run_outcomes sampleLifecycleCall _ .empty), ?_,
    LifecycleOperation.run_outcomes sampleLifecycleCall _ sampleAppended, ?_⟩
  · rfl
  · rfl
end DispatcherSdk.ExecutionKernel
