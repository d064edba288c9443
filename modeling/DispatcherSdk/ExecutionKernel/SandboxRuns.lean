/-
This file proves what every run of a sandbox handler keeps to, and under which condition its
results are the recorded ones.

The journal alone sees to it that generations follow one another in order: a new one needs a
greater fence and a predecessor that is disposed of, and an update names the generation it is
meant for. That the result of a handler is the one the journal has recorded rests on the kernel
as well.
-/

import DispatcherSdk.ExecutionKernel.EffectHistory
import DispatcherSdk.ExecutionKernel.Sandbox
import Mathlib.Data.Option.Basic

namespace DispatcherSdk.ExecutionKernel

open Library Library.Attempt Relation List Option Function

/-! ### The journal -/

/-- Of two generations the later one has the greater fence, the same intent, and another key. -/
def SandboxGeneration.Precedes (older newer : SandboxGeneration) : Prop :=
  older.fence < newer.fence ∧ older.intent = newer.intent ∧
    older.operationKey ≠ newer.operationKey

namespace SandboxJournal

variable {journal next : SandboxJournal} {operationKey : String} {values : JournalUpdate}
  {intent : SandboxIntent} {lease : ExecutionLease}

/-- What holds of a journal whose keys were all drawn. -/
structure Sound (journal : SandboxJournal) (drawn : List String) : Prop where
  first : journal.current = none → journal.history = []
  disposed : ∀ record ∈ journal.history, record.cleanupConfirmed = true
  ordered : journal.generations.Pairwise SandboxGeneration.Precedes
  keys : ∀ record ∈ journal.generations, record.operationKey ∈ drawn

theorem update_eq_some (updated : journal.update operationKey values = some next) :
    ∃ record, journal.current = some record ∧ record.operationKey = operationKey ∧
      next = { journal with current := some (values.apply record) } := by
  unfold update at updated
  cases found : journal.current with
  | none =>
    rw [found] at updated
    cases updated
  | some record =>
    rw [found] at updated
    dsimp only at updated
    by_cases same : record.operationKey = operationKey
    · rw [if_pos same] at updated
      exact ⟨record, rfl, same, (Option.some.inj updated).symm⟩
    · rw [if_neg same] at updated
      cases updated

def Replaces (journal next : SandboxJournal) : Prop :=
  ∃ older newer, journal.current = some older ∧ next.current = some newer ∧
    next.history = journal.history ++ [older] ∧ older.cleanupConfirmed = true ∧
    older.fence < newer.fence ∧ older.intent = newer.intent

theorem begin_eq_some (begun : journal.begin intent lease operationKey = some next) :
    ∃ newer, next.current = some newer ∧ newer.operationKey = operationKey ∧
      newer.cleanupConfirmed = false ∧ newer.result = none ∧
      ((journal.current = none ∧ next.history = journal.history) ∨ journal.Replaces next) := by
  unfold begin at begun
  cases found : journal.current with
  | none =>
    rw [found] at begun
    cases begun
    exact ⟨_, rfl, rfl, rfl, rfl, Or.inl ⟨rfl, rfl⟩⟩
  | some previous =>
    rw [found] at begun
    dsimp only at begun
    by_cases stale : lease.fence ≤ previous.fence
    · rw [if_pos stale] at begun
      cases begun
    rw [if_neg stale] at begun
    by_cases undisposed : previous.cleanupConfirmed = false
    · rw [if_pos undisposed] at begun
      cases begun
    rw [if_neg undisposed] at begun
    by_cases other : previous.intent ≠ intent
    · rw [if_pos other] at begun
      cases begun
    rw [if_neg other] at begun
    cases begun
    refine ⟨_, rfl, rfl, rfl, rfl, Or.inr ⟨previous, _, found, rfl, rfl, ?_, ?_, ?_⟩⟩
    · exact (Bool.not_eq_false _).mp undisposed
    · exact not_le.mp stale
    · exact not_not.mp other

theorem apply_operationKey (record : SandboxGeneration) :
    (values.apply record).operationKey = record.operationKey := by
  cases values <;> rfl

theorem apply_intent (record : SandboxGeneration) :
    (values.apply record).intent = record.intent := by
  cases values <;> rfl

theorem apply_fence (record : SandboxGeneration) : (values.apply record).fence = record.fence := by
  cases values <;> rfl

variable {drawn : List String}

theorem Sound.update (sound : journal.Sound drawn)
    (updated : journal.update operationKey values = some next) : next.Sound drawn := by
  obtain ⟨record, found, -, rfl⟩ := update_eq_some updated
  have split : journal.generations = journal.history ++ [record] := by
    unfold generations
    rw [found]
    rfl
  have ordered := sound.ordered
  have keys := sound.keys
  rw [split] at ordered keys
  refine ⟨nofun, sound.disposed, ?_, fun other member => ?_⟩
  · obtain ⟨old, -, last⟩ := pairwise_append.mp ordered
    refine pairwise_append.mpr ⟨old, pairwise_singleton _ _, fun older member newer new => ?_⟩
    obtain rfl := mem_singleton.mp new
    have before := last older member record mem_cons_self
    unfold SandboxGeneration.Precedes at before ⊢
    rwa [apply_fence, apply_intent, apply_operationKey]
  · rcases mem_append.mp member with old | new
    · exact keys other (mem_append_left _ old)
    · obtain rfl := mem_singleton.mp new
      rw [apply_operationKey]
      exact keys record (mem_append_right _ mem_cons_self)

theorem Sound.begin (sound : journal.Sound drawn) (fresh : operationKey ∉ drawn)
    (begun : journal.begin intent lease operationKey = some next) :
    next.Sound (operationKey :: drawn) := by
  obtain ⟨newer, started, rfl, -, -, empty | replaces⟩ := begin_eq_some begun
  · have none_before : next.history = [] := empty.2.trans (sound.first empty.1)
    have split : next.generations = [newer] := by
      unfold generations
      rw [started, none_before]
      rfl
    refine ⟨fun _ => none_before, ?_, ?_, ?_⟩
    · rw [none_before]
      exact nofun
    · rw [split]
      exact pairwise_singleton _ _
    · rw [split]
      rintro record member
      rw [mem_singleton.mp member]
      exact mem_cons_self
  · obtain ⟨older, newest, found, shown, appended, disposed, greater, same⟩ := replaces
    obtain rfl := Option.some.inj (started.symm.trans shown)
    have earlier : journal.generations = journal.history ++ [older] := by
      unfold generations
      rw [found]
      rfl
    have split : next.generations = journal.generations ++ [newer] := by
      unfold generations
      rw [started, appended, found]
      rfl
    refine ⟨fun empty => ?_, fun record member => ?_, ?_, fun record member => ?_⟩
    · cases started.symm.trans empty
    · rw [appended] at member
      rcases mem_append.mp member with old | last
      · exact sound.disposed record old
      · rw [mem_singleton.mp last]
        exact disposed
    · rw [split]
      refine pairwise_append.mpr
        ⟨sound.ordered, pairwise_singleton _ _, fun record member new last => ?_⟩
      obtain rfl := mem_singleton.mp last
      have other : record.operationKey ≠ new.operationKey := fun clash =>
        fresh (clash ▸ sound.keys record member)
      have ordered := sound.ordered
      rw [earlier] at ordered member
      rcases mem_append.mp member with old | final
      · have before := (pairwise_append.mp ordered).2.2 record old older mem_cons_self
        exact ⟨before.1.trans greater, before.2.1.trans same, other⟩
      · obtain rfl := mem_singleton.mp final
        exact ⟨greater, same, other⟩
    · rw [split] at member
      rcases mem_append.mp member with old | last
      · exact mem_cons_of_mem _ (sound.keys record old)
      · rw [mem_singleton.mp last]
        exact mem_cons_self

end SandboxJournal

/-! ### The kernel -/

section Kernel

variable {state : KernelState} {environment : Environment} {lease : ExecutionLease}
  {effectId : Identifier}

/-- An effect is committed with this response. -/
def Database.CommitsEffect (database : Database) (effectId : Identifier) (response : Json) : Prop :=
  ∃ effect, database.effects.find? effectId = some effect ∧ effect.state = .committed ∧
    effect.response.getD .null = response

variable {record : EffectRecord}

/-- A committed effect that `prepare_effect` answers is stored so. -/
theorem prepareEffect_committed {name : Identifier} {request : Json}
    (answered : (prepareEffect lease effectId name request environment state).1 = .ok record)
    (committed : record.state = .committed) :
    (prepareEffect lease effectId name request environment state).2.database.CommitsEffect
      effectId record.response := by
  have stored : ∀ answer, (transaction (prepareEffectBody lease effectId name request) environment
      state).1 = .ok answer → ∀ record, answer = .effect record → record.state = .committed →
        (transaction (prepareEffectBody lease effectId name request) environment
          state).2.database.CommitsEffect effectId record.response := by
    intro answer outcome
    refine transaction_answers (fun answer next => ∀ record, answer = EffectAnswer.effect record →
      record.state = .committed → next.CommitsEffect effectId record.response)
      (fun now session _ => ?_) outcome
    unfold prepareEffectBody
    refine ensures_bind (assertLease_ensures fun execution _ _ _ _ => ?_)
    refine ensures_bind (effectRecord_ensures fun candidate decoded => ?_)
    refine then_read ?_
    cases found : state.database.effects.find? effectId with
    | none =>
      refine then_check fun _ _ => ensures_bind (ensures_write (ensures_bind
        (ensures_write (ensures_pure ?_))))
      rintro _ ⟨⟩ settled
      rw [decoded] at settled
      cases settled
    | some row =>
      show Ensures (prepareExisting execution lease row _ now) environment _ _
      unfold prepareExisting
      refine ensures_bind (effectRecord_ensures fun existing fields => ?_)
      refine then_require fun _ => ?_
      refine ensures_ite (fun settled => ensures_pure ?_) (fun unsettled => ?_)
      · rintro _ ⟨⟩ -
        exact ⟨row, found, settled, by rw [fields]; rfl⟩
      refine ensures_ite (fun _ => then_check fun _ _ => ensures_bind
        (casEffect_ensures (ensures_bind (effectRecord_ensures fun again decodes =>
          ensures_bind (ensures_write (ensures_pure ?_)))))) (fun _ => ?_)
      · rintro _ ⟨⟩ settled
        rw [decodes] at settled
        cases settled
      refine ensures_ite (fun _ => ensures_pure ?_) (fun _ => ?_)
      · rintro _ ⟨⟩ settled
        rw [fields] at settled
        exact absurd settled unsettled
      refine ensures_ite (fun _ => ensures_bind fun _ _ _ => ensures_pure (by rintro _ ⟨⟩)) (fun _ => ?_)
      refine ensures_ite (fun _ => ensures_bind fun _ _ _ => ensures_pure (by rintro _ ⟨⟩)) (fun _ => ?_)
      exact ensures_fail _
  unfold prepareEffect raiseRecovery at answered ⊢
  cases outcome : transaction (prepareEffectBody lease effectId name request) environment state with
  | mk answer next =>
    rw [outcome] at answered
    cases answer with
    | error failure => cases answered
    | ok given =>
      cases given with
      | recoveryRequired other => cases answered
      | effect given =>
        cases answered
        have kept := stored (.effect record) (by rw [outcome]) record rfl committed
        rwa [outcome] at kept

/-- What `commit_effect` answers is stored so. -/
theorem commitEffect_committed {response : Json} {claimId : Identifier}
    (answered : (commitEffect effectId response lease claimId environment state).1 = .ok record) :
    (commitEffect effectId response lease claimId environment state).2.database.CommitsEffect
      effectId record.response := by
  refine transaction_answers (fun record next => next.CommitsEffect effectId record.response)
    (fun now session _ => ?_) answered
  unfold commitEffectBody claimedEffect
  refine ensures_bind (ensures_bind (assertLease_ensures fun _ _ _ _ _ => ?_))
  refine ensures_bind (getEffectRow_ensures fun row found => ?_)
  refine ensures_bind (effectRecord_ensures fun existing fields => ?_)
  refine then_lift fun _ _ => ?_
  refine then_require fun _ => ensures_pure ?_
  refine ensures_ite (fun settled => then_require fun _ => ensures_pure ?_)
    (fun _ => ?_)
  · exact ⟨row, found, settled, by rw [fields]; rfl⟩
  refine then_require fun _ => ?_
  refine then_require fun _ => ?_
  refine then_check fun _ _ => ?_
  refine ensures_bind (effectRecord_ensures fun validated written => ?_)
  refine ensures_bind (casEffect_ensures ?_)
  refine ensures_bind (ensures_write (ensures_pure ?_))
  have named : row.effectId = effectId := Table.key_of_find? found
  refine ⟨row.committed response now, ?_, rfl, by rw [written]; rfl⟩
  rw [← named]
  exact Table.find?_put_same _ _

end Kernel

/-! ### Moves -/

section Moves

variable {digest : String → String} {executionId : Identifier} {before after : SandboxWorld}
  {actor : SandboxActor}

theorem SandboxMove.kernel_run (move : SandboxMove digest executionId before actor after) :
    ExecutionKernel.kernel.Run before.kernel after.kernel := by
  cases move with
  | kernel operation environment => exact .single ⟨operation, environment, rfl⟩
  | prepare environment => exact .single ⟨.work (.prepareEffect ..), environment, rfl⟩
  | claim environment => exact .single ⟨.work (.claimEffect ..), environment, rfl⟩
  | commit environment => exact .single ⟨.work (.commitEffect ..), environment, rfl⟩
  | prepareDisposal environment => exact .single ⟨.work (.prepareEffect ..), environment, rfl⟩
  | claimDisposal environment => exact .single ⟨.work (.claimEffect ..), environment, rfl⟩
  | commitDisposal environment => exact .single ⟨.work (.commitEffect ..), environment, rfl⟩
  | _ => exact .refl

variable {phase following : AttemptPhase}

variable {operationKey : String} {values : JournalUpdate}

theorem SandboxAttempt.update_addresses
    (next : SandboxAttempt.update phase = some (operationKey, values, following)) :
    phase.operationKey = some operationKey := by
  cases phase <;> cases next <;> rfl

inductive JournalMove (before : SandboxWorld) (actor : SandboxActor) (after : SandboxWorld) : Prop
  | still (journal : after.journal = before.journal) (drawn : after.drawn = before.drawn)
  | update {operationKey : String} {values : JournalUpdate}
      (addressed : before.addressed actor = some operationKey)
      (updated : before.journal.update operationKey values = some after.journal)
      (drawn : after.drawn = before.drawn)
  | begin {index : ℕ} {attempt : SandboxAttempt} {claimId : Identifier} {intent : SandboxIntent}
      {lease : ExecutionLease} {operationKey : String} (acts : actor = .attempt index)
      (under : before.attempts index = some attempt)
      (next : attempt.phase = .beginning claimId) (fresh : operationKey ∉ before.drawn)
      (begun : before.journal.begin intent lease operationKey = some after.journal)
      (drawn : after.drawn = operationKey :: before.drawn)

theorem CleanupStep.journal {handler : SandboxHandler} {journal next : SandboxJournal}
    {phase following : CleanupPhase} (step : CleanupStep handler journal phase next following) :
    next = journal ∨ ∃ operationKey evidence, phase.operationKey = some operationKey ∧
      journal.update operationKey (.cleaned evidence) = some next := by
  cases step with
  | record updated => exact .inr ⟨_, _, rfl, updated⟩
  | _ => exact .inl rfl

theorem SandboxMove.journal (move : SandboxMove digest executionId before actor after) :
    JournalMove before actor after := by
  cases move with
  | begin under next fresh begun => exact .begin rfl under next fresh begun rfl
  | update under next updated =>
    refine .update ?_ updated rfl
    show Option.bind _ _ = _
    rw [under]
    exact SandboxAttempt.update_addresses next
  | dispose under next step =>
    rcases step.journal with still | ⟨operationKey, evidence, addressed, updated⟩
    · exact .still still rfl
    · refine .update ?_ updated rfl
      show Option.bind _ _ = _
      rw [under]
      show AttemptPhase.operationKey _ = _
      rw [next]
      exact addressed
  | clean under step =>
    rcases step.journal with still | ⟨operationKey, evidence, addressed, updated⟩
    · exact .still still rfl
    · refine .update ?_ updated rfl
      show Option.bind _ _ = _
      rw [under]
      exact addressed
  | confirm evidence updated => exact .update rfl updated rfl
  | _ => exact .still rfl rfl

section

variable (move : JournalMove before actor after)

include move

theorem JournalMove.sound (sound : before.journal.Sound before.drawn) :
    after.journal.Sound after.drawn := by
  cases move with
  | still journal drawn =>
    rw [journal, drawn]
    exact sound
  | update addressed updated drawn =>
    rw [drawn]
    exact sound.update updated
  | begin acts under next fresh begun drawn =>
    rw [drawn]
    exact sound.begin fresh begun

theorem JournalMove.history : before.journal.history <+: after.journal.history := by
  cases move with
  | still journal => exact journal ▸ prefix_rfl
  | update addressed updated =>
    obtain ⟨record, -, -, moved⟩ := SandboxJournal.update_eq_some updated
    exact moved ▸ prefix_rfl
  | begin acts under next fresh begun =>
    obtain ⟨newer, -, -, -, -, empty | replaces⟩ := SandboxJournal.begin_eq_some begun
    · exact empty.2 ▸ prefix_rfl
    · obtain ⟨older, -, -, -, appended, -⟩ := replaces
      rw [appended]
      exact prefix_append _ _

variable {record : SandboxGeneration}

/-- A move that does not address the current generation leaves it alone, or replaces it once it is
disposed of. -/
theorem JournalMove.addressed (current : before.journal.current = some record)
    (other : before.addressed actor ≠ some record.operationKey) :
    after.journal = before.journal ∨ before.journal.Replaces after.journal := by
  cases move with
  | still journal => exact .inl journal
  | update addressed updated =>
    obtain ⟨found, shown, named, -⟩ := SandboxJournal.update_eq_some updated
    obtain rfl := Option.some.inj (current.symm.trans shown)
    rw [addressed, named] at other
    exact absurd rfl other
  | begin acts under next fresh begun =>
    obtain ⟨newer, -, -, -, -, empty | replaces⟩ := SandboxJournal.begin_eq_some begun
    · cases current.symm.trans empty.1
    · exact .inr replaces

theorem JournalMove.begins (current : after.journal.current = some record) :
    (∃ same, before.journal.current = some same ∧ same.operationKey = record.operationKey ∧
      same.intent = record.intent ∧ same.fence = record.fence) ∨
    before.journal.current = none ∨ before.journal.Replaces after.journal := by
  cases move with
  | still journal => exact .inl ⟨record, journal ▸ current, rfl, rfl, rfl⟩
  | update addressed updated =>
    obtain ⟨found, shown, named, moved⟩ := SandboxJournal.update_eq_some updated
    rw [moved] at current
    obtain rfl := Option.some.inj current
    exact .inl ⟨found, shown, (SandboxJournal.apply_operationKey found).symm,
      (SandboxJournal.apply_intent found).symm, (SandboxJournal.apply_fence found).symm⟩
  | begin acts under next fresh begun =>
    obtain ⟨newer, -, -, -, -, empty | replaces⟩ := SandboxJournal.begin_eq_some begun
    · exact .inr (.inl empty.1)
    · exact .inr (.inr replaces)

end

/-! ### Sandboxes are created once for a key -/

/-- The key with which an attempt is about to call `backend.create`. -/
def AttemptPhase.creation : AttemptPhase → Option String
  | creating _ operationKey => some operationKey
  | _ => none

/-- The keys that were given to `backend.create`, and those that are about to be. -/
structure SandboxWorld.CreatesOnce (world : SandboxWorld) : Prop where
  once : world.creations.Nodup
  drawn : ∀ operationKey ∈ world.creations, operationKey ∈ world.drawn
  pending : ∀ index attempt operationKey, world.attempts index = some attempt →
    attempt.phase.creation = some operationKey →
      operationKey ∈ world.drawn ∧ operationKey ∉ world.creations
  apart : ∀ first second left right operationKey, world.attempts first = some left →
    world.attempts second = some right → left.phase.creation = some operationKey →
      right.phase.creation = some operationKey → first = second

theorem SandboxWorld.CreatesOnce.moved (sound : before.CreatesOnce) (index : ℕ)
    (attempt : SandboxAttempt) (idle : phase.creation = none) :
    (before.moved index attempt phase).CreatesOnce := by
  have former : ∀ other running operationKey,
      (before.moved index attempt phase).attempts other = some running →
      running.phase.creation = some operationKey →
        other ≠ index ∧ before.attempts other = some running := by
    intro other running operationKey under creation
    by_cases same : other = index
    · subst same
      rw [show (before.moved other attempt phase).attempts other = some { attempt with phase } from
        update_self _ _ _] at under
      cases under
      cases idle.symm.trans creation
    · rw [show (before.moved index attempt phase).attempts other = before.attempts other from
        update_of_ne same _ _] at under
      exact ⟨same, under⟩
  refine ⟨sound.once, sound.drawn, fun other running operationKey under creation => ?_,
    fun first second left right operationKey held kept one two => ?_⟩
  · exact sound.pending other running operationKey (former _ _ _ under creation).2 creation
  · exact sound.apart first second left right operationKey (former _ _ _ held one).2
      (former _ _ _ kept two).2 one two

theorem SandboxAttempt.update_creation
    (next : SandboxAttempt.update phase = some (operationKey, values, following)) :
    following.creation = none := by
  cases phase with
  | confirming key result failed =>
    cases next
    cases failed <;> rfl
  | _ => cases next <;> rfl

section

variable (answer : Except KernelError EffectRecord)

include answer

theorem SandboxAttempt.prepared_creation : (prepared answer).creation = none := by
  cases answer with
  | error => rfl
  | ok record =>
    unfold prepared
    dsimp only
    split <;> rfl

theorem SandboxAttempt.claimed_creation : (claimed answer).creation = none := by
  cases answer with
  | error => rfl
  | ok record =>
    unfold claimed
    dsimp only
    cases record.claimId <;> rfl

theorem SandboxAttempt.committed_creation : (committed answer).creation = none := by
  cases answer <;> rfl

end

theorem SandboxAttempt.recordRead_creation (result : Json) (current : Option SandboxGeneration) :
    (recordRead result current).creation = none := by
  cases current with
  | none => rfl
  | some record =>
    unfold recordRead
    dsimp only
    cases record.accepts result with
    | none => rfl
    | some outcome =>
      dsimp only
      split <;> rfl

section Disposal

variable (operationKey : String) (result : Json) (failed : Bool)

theorem SandboxAttempt.disposed_creation (response : Json) :
    (disposed operationKey result failed response).creation = none := by
  unfold disposed
  split <;> rfl

theorem SandboxAttempt.disposalPrepared_creation (answer : Except KernelError EffectRecord) :
    (disposalPrepared operationKey result failed answer).creation = none := by
  cases answer with
  | error => rfl
  | ok record =>
    unfold disposalPrepared
    dsimp only
    split
    · exact disposed_creation ..
    · rfl

theorem SandboxAttempt.disposalClaimed_creation (answer : Except KernelError EffectRecord) :
    (disposalClaimed operationKey result failed answer).creation = none := by
  cases answer with
  | error => rfl
  | ok record =>
    unfold disposalClaimed
    dsimp only
    cases record.claimId <;> rfl

theorem SandboxAttempt.disposalMoved_creation (claimId : Identifier) (cleanup : CleanupPhase) :
    (disposalMoved operationKey result failed claimId cleanup).creation = none := by
  cases cleanup with
  | finished confirmed => cases confirmed <;> rfl
  | _ => rfl

theorem SandboxAttempt.disposalCommitted_creation (answer : Except KernelError EffectRecord) :
    (disposalCommitted operationKey result failed answer).creation = none := by
  cases answer with
  | error => rfl
  | ok record => exact disposed_creation ..

theorem SandboxAttempt.checked_creation (current : Option SandboxGeneration) :
    (checked operationKey result failed current).creation = none := by
  cases current with
  | none => rfl
  | some record =>
    unfold checked
    dsimp only
    split
    · cases failed <;> rfl
    · rfl

end Disposal

theorem SandboxMove.createsOnce (move : SandboxMove digest executionId before actor after)
    (sound : before.CreatesOnce) : after.CreatesOnce := by
  have still : ∀ {world : SandboxWorld}, world.CreatesOnce → ∀ (kernel : KernelState)
      (journal : SandboxJournal), { world with kernel, journal }.CreatesOnce :=
    fun kept _ _ => ⟨kept.once, kept.drawn, kept.pending, kept.apart⟩
  cases move with
  | kernel => exact still sound _ _
  | call => exact sound.moved _ _ rfl
  | fail => exact sound.moved _ _ rfl
  | prepare => exact still (sound.moved _ _ (SandboxAttempt.prepared_creation _)) _ _
  | claim => exact still (sound.moved _ _ (SandboxAttempt.claimed_creation _)) _ _
  | begin under next fresh begun =>
    rename_i index attempt claimId operationKey journal
    have former : ∀ other running key, Function.update before.attempts index
          (some { attempt with phase := .creating claimId operationKey }) other = some running →
        running.phase.creation = some key →
          (other = index ∧ key = operationKey) ∨
            (other ≠ index ∧ before.attempts other = some running) := by
      intro other running key held creation
      by_cases same : other = index
      · subst same
        rw [update_self] at held
        cases held
        exact .inl ⟨rfl, (Option.some.inj creation).symm⟩
      · rw [update_of_ne same] at held
        exact .inr ⟨same, held⟩
    refine ⟨sound.once, fun key member => mem_cons_of_mem _ (sound.drawn key member),
      fun other running key held creation => ?_,
      fun first second left right key held kept one two => ?_⟩
    · rcases former other running key held creation with ⟨-, rfl⟩ | ⟨-, old⟩
      · exact ⟨mem_cons_self, fun created => fresh (sound.drawn _ created)⟩
      · obtain ⟨drawn, missing⟩ := sound.pending other running key old creation
        exact ⟨mem_cons_of_mem _ drawn, missing⟩
    · rcases former first left key held one with ⟨rfl, rfl⟩ | ⟨-, old⟩
      · rcases former second right _ kept two with ⟨rfl, -⟩ | ⟨-, other⟩
        · rfl
        · exact absurd (sound.pending second right _ other two).1 fresh
      · rcases former second right key kept two with ⟨rfl, rfl⟩ | ⟨-, other⟩
        · exact absurd (sound.pending first left _ old one).1 fresh
        · exact sound.apart first second left right key old other one two
  | create answer under next =>
    rename_i index attempt claimId operationKey
    have pending := sound.pending index attempt operationKey under (by rw [next]; rfl)
    have idle : ((answer.map fun sandboxId =>
        AttemptPhase.recordingCreated claimId operationKey sandboxId).getD .ended).creation =
          none := by
      cases answer <;> rfl
    have moved := sound.moved index attempt idle
    refine ⟨nodup_cons.mpr ⟨pending.2, sound.once⟩, fun key member => ?_,
      fun other running key held creation => ?_, moved.apart⟩
    · rcases mem_cons.mp member with rfl | old
      · exact pending.1
      · exact sound.drawn key old
    · obtain ⟨drawn, missing⟩ := moved.pending other running key held creation
      refine ⟨drawn, fun created => ?_⟩
      rcases mem_cons.mp created with rfl | old
      · by_cases same : other = index
        · subst same
          have phases := held.symm.trans (update_self other _ _)
          cases phases
          cases idle.symm.trans creation
        · have former : before.attempts other = some running :=
            (update_of_ne same _ _).symm.trans held
          exact same (sound.apart other index running attempt _ former under creation
            (by rw [next]; rfl))
      · exact missing old
  | start => exact sound.moved _ _ rfl
  | inspect => exact sound.moved _ _ rfl
  | collect => exact sound.moved _ _ rfl
  | update under next =>
    exact still (sound.moved _ _ (SandboxAttempt.update_creation next)) _ _
  | commit => exact still (sound.moved _ _ (SandboxAttempt.committed_creation _)) _ _
  | read => exact sound.moved _ _ (SandboxAttempt.recordRead_creation ..)
  | prepareDisposal =>
    exact still (sound.moved _ _ (SandboxAttempt.disposalPrepared_creation ..)) _ _
  | claimDisposal =>
    exact still (sound.moved _ _ (SandboxAttempt.disposalClaimed_creation ..)) _ _
  | dispose => exact still (sound.moved _ _ (SandboxAttempt.disposalMoved_creation ..)) _ _
  | commitDisposal =>
    exact still (sound.moved _ _ (SandboxAttempt.disposalCommitted_creation ..)) _ _
  | check => exact sound.moved _ _ (SandboxAttempt.checked_creation ..)
  | cleanup => exact ⟨sound.once, sound.drawn, sound.pending, sound.apart⟩
  | clean => exact ⟨sound.once, sound.drawn, sound.pending, sound.apart⟩
  | confirm => exact still sound _ _

theorem SandboxWorld.sound {world : SandboxWorld}
    (reachable : (sandboxSystem digest executionId).Reachable world) :
    ExecutionKernel.kernel.Reachable world.kernel ∧ world.journal.Sound world.drawn ∧ world.CreatesOnce := by
  refine reachable.invariant (fun world => ExecutionKernel.kernel.Reachable world.kernel ∧
    world.journal.Sound world.drawn ∧ world.CreatesOnce) ?_ ?_
  · rintro world ⟨initial, empty, attempts, -, creations⟩
    refine ⟨.start initial, ?_, ?_⟩
    · rw [empty]
      exact ⟨fun _ => rfl, nofun, List.Pairwise.nil, nofun⟩
    · refine ⟨?_, ?_, ?_, ?_⟩
      · rw [creations]
        exact nodup_nil
      · rw [creations]
        exact nofun
      · intro index attempt operationKey under
        rw [attempts] at under
        cases under
      · intro first second left right operationKey under
        rw [attempts] at under
        cases under
  · rintro before after - ⟨reached, journal, creates⟩ ⟨actor, move⟩
    exact ⟨reached.run move.kernel_run, move.journal.sound journal, move.createsOnce creates⟩

end Moves

/-! ### Results under permitted moves -/

section Results

variable (digest : String → String) (executionId : Identifier)

/-- The effect of the script is committed with this response. -/
def SandboxWorld.Answers (world : SandboxWorld) (result : Json) : Prop :=
  world.kernel.database.CommitsEffect (sandboxEffectId digest executionId) result

/-- A response that the journal has recorded for the current generation, which has this key. -/
def SandboxWorld.Records (world : SandboxWorld) (operationKey : String) (result : Json) : Prop :=
  world.Answers digest executionId result ∧ ∃ record, world.journal.current = some record ∧
    record.operationKey = operationKey ∧ record.result = some result.encode

/-- What an attempt that has the response of the effect rests on. -/
def SandboxWorld.Backs (world : SandboxWorld) : AttemptPhase → Prop
  | .reading result => world.Answers digest executionId result
  | .recovering operationKey result _ => world.Answers digest executionId result ∧
    ∃ record, world.journal.current = some record ∧ record.operationKey = operationKey
  | .preparingDisposal operationKey result _ | .claimingDisposal operationKey result _
  | .disposing operationKey result _ _ _ | .committingDisposal operationKey result _ _
  | .checking operationKey result _ | .confirming operationKey result _ =>
    world.Records digest executionId operationKey result
  | .returned result | .exitNonzero result => world.Answers digest executionId result ∧
    ∃ record, world.journal.current = some record ∧ record.result = some result.encode ∧
      record.cleanupConfirmed = true
  | _ => True

end Results

/-- A move that keeps a committed response, and keeps it recorded where it is. -/
structure Carries (digest : String → String) (executionId : Identifier) (result : Json)
    (before after : SandboxWorld) : Prop where
  answers : after.Answers digest executionId result
  record : ∀ record, before.journal.current = some record → ∃ kept,
    after.journal.current = some kept ∧ kept.operationKey = record.operationKey ∧
    (record.result = some result.encode → kept.result = some result.encode) ∧
    (record.cleanupConfirmed = true → kept.cleanupConfirmed = true)

section Permitted

variable {digest : String → String} {executionId : Identifier} {before after : SandboxWorld}
  {actor : SandboxActor} {result : Json}

theorem SandboxWorld.Answers.unique {other : Json} (answers : before.Answers digest executionId result)
    (again : before.Answers digest executionId other) : result = other := by
  obtain ⟨effect, found, -, rfl⟩ := answers
  obtain ⟨same, shown, -, rfl⟩ := again
  rw [Option.some.inj (found.symm.trans shown)]

theorem SandboxWorld.Answers.run (answers : before.Answers digest executionId result)
    (reached : ExecutionKernel.kernel.Reachable before.kernel) (run : ExecutionKernel.kernel.Run before.kernel after.kernel) :
    after.Answers digest executionId result := by
  obtain ⟨effect, found, committed, response⟩ := answers
  exact ⟨effect, committed_stays reached run found committed, committed, response⟩

variable {journal next : SandboxJournal} {operationKey : String}

theorem SandboxJournal.update_carries
    {values : JournalUpdate} (updated : journal.update operationKey values = some next)
    (spares : ∀ record, journal.current = some record → record.operationKey = operationKey →
      record.result = some result.encode → (values.apply record).result = some result.encode) :
    ∀ record, journal.current = some record → ∃ kept, next.current = some kept ∧
      kept.operationKey = record.operationKey ∧
      (record.result = some result.encode → kept.result = some result.encode) ∧
      (record.cleanupConfirmed = true → kept.cleanupConfirmed = true) := by
  intro record current
  obtain ⟨found, shown, named, rfl⟩ := SandboxJournal.update_eq_some updated
  obtain rfl := Option.some.inj (current.symm.trans shown)
  refine ⟨_, rfl, SandboxJournal.apply_operationKey record, spares record current named, ?_⟩
  intro confirmed
  cases values with
  | cleaned => rfl
  | _ => exact confirmed

theorem CleanupStep.carries {handler : SandboxHandler}
    {phase following : CleanupPhase} (step : CleanupStep handler journal phase next following) :
    ∀ record, journal.current = some record → ∃ kept, next.current = some kept ∧
      kept.operationKey = record.operationKey ∧
      (record.result = some result.encode → kept.result = some result.encode) ∧
      (record.cleanupConfirmed = true → kept.cleanupConfirmed = true) := by
  rcases step.journal with rfl | ⟨operationKey, evidence, -, updated⟩
  · exact fun record current => ⟨record, current, rfl, id, id⟩
  · exact SandboxJournal.update_carries updated fun _ _ _ recorded => recorded

theorem SandboxMove.carries (move : SandboxMove digest executionId before actor after)
    (permitted : before.Permits digest executionId actor)
    (backed : ∀ index attempt, before.attempts index = some attempt →
      before.Backs digest executionId attempt.phase)
    (reached : ExecutionKernel.kernel.Reachable before.kernel)
    (answers : before.Answers digest executionId result) :
    Carries digest executionId result before after := by
  refine ⟨answers.run reached move.kernel_run, ?_⟩
  cases move with
  | begin under next =>
    obtain ⟨effect, found, committed, -⟩ := answers
    exact absurd ⟨effect, found, committed⟩ ((permitted _ under).1 _ next)
  | update under next updated =>
    rename_i index attempt operationKey values phase journal
    refine SandboxJournal.update_carries updated fun record current named recorded => ?_
    cases shown : attempt.phase with
    | recordingCollected claimId key collected =>
      rw [shown] at next
      cases next
      have same := (permitted attempt under).2 _ _ _ shown record current named _ recorded
      show some collected.encode = _
      rw [same]
    | recovering key recovered outcome =>
      rw [shown] at next
      cases next
      have backs := backed index attempt under
      rw [shown] at backs
      rw [answers.unique backs.1]
      rfl
    | _ =>
      rw [shown] at next
      cases next <;> exact recorded
  | dispose under next step => exact step.carries
  | clean under step => exact step.carries
  | confirm evidence updated =>
    exact SandboxJournal.update_carries updated fun _ _ _ recorded => recorded
  | _ => exact fun record current => ⟨record, current, rfl, id, id⟩

theorem SandboxWorld.Records.carried
    (records : before.Records digest executionId operationKey result)
    (carries : Carries digest executionId result before after) :
    after.Records digest executionId operationKey result := by
  obtain ⟨-, record, current, named, recorded⟩ := records
  obtain ⟨kept, shown, same, still, -⟩ := carries.record record current
  exact ⟨carries.answers, kept, shown, same.trans named, still recorded⟩

theorem SandboxWorld.Backs.carried {phase : AttemptPhase}
    (carries : ∀ result, before.Answers digest executionId result →
      Carries digest executionId result before after)
    (backs : before.Backs digest executionId phase) : after.Backs digest executionId phase := by
  have records : ∀ operationKey result, before.Records digest executionId operationKey result →
      after.Records digest executionId operationKey result :=
    fun operationKey result kept => kept.carried (carries result kept.1)
  have settled : ∀ result, (before.Answers digest executionId result ∧
      ∃ record, before.journal.current = some record ∧ record.result = some result.encode ∧
        record.cleanupConfirmed = true) → after.Answers digest executionId result ∧
      ∃ record, after.journal.current = some record ∧ record.result = some result.encode ∧
        record.cleanupConfirmed = true := by
    rintro result ⟨answers, record, current, recorded, confirmed⟩
    obtain ⟨kept, shown, -, still, stays⟩ := (carries result answers).record record current
    exact ⟨(carries result answers).answers, kept, shown, still recorded, stays confirmed⟩
  cases phase with
  | reading result => exact (carries result backs).answers
  | recovering operationKey result outcome =>
    obtain ⟨answers, record, current, named⟩ := backs
    obtain ⟨kept, shown, same, -⟩ := (carries result answers).record record current
    exact ⟨(carries result answers).answers, kept, shown, same.trans named⟩
  | preparingDisposal | claimingDisposal | disposing | committingDisposal | checking
  | confirming => exact records _ _ backs
  | returned result | exitNonzero result => exact settled result backs
  | _ => trivial

theorem SandboxGeneration.accepts_recorded {record : SandboxGeneration} {outcome : SandboxOutcome}
    (accepted : record.accepts result = some outcome) :
    ∀ known ∈ record.result, known = result.encode := by
  unfold accepts at accepted
  cases result with
  | object fields =>
    simp only [bind_eq_bind, bind_eq_some_iff] at accepted
    obtain ⟨_, -, _, -, _, -, _, -, _, -, _, -, _, -, _, -, _, -, _, -, _, recorded, -⟩ := accepted
    exact (guard_eq_some' _).mp recorded
  | _ => cases accepted

/-- A step of a permitted run: what every attempt rests on stays, and the one that moves rests on
what it has found. -/
theorem SandboxMove.backs (move : SandboxMove digest executionId before actor after)
    (permitted : before.Permits digest executionId actor)
    (backed : ∀ index attempt, before.attempts index = some attempt →
      before.Backs digest executionId attempt.phase)
    (reached : ExecutionKernel.kernel.Reachable before.kernel) :
    ∀ index attempt, after.attempts index = some attempt →
      after.Backs digest executionId attempt.phase := by
  have carries : ∀ result, before.Answers digest executionId result →
      Carries digest executionId result before after :=
    fun result answers => move.carries permitted backed reached answers
  -- All attempts but the one that moves stay where they are.
  have others : ∀ (index : ℕ) (attempt : SandboxAttempt) (phase : AttemptPhase),
      after.attempts = Function.update before.attempts index (some { attempt with phase }) →
      after.Backs digest executionId phase →
      ∀ other running, after.attempts other = some running →
        after.Backs digest executionId running.phase := by
    intro index attempt phase moved own other running under
    rw [moved] at under
    by_cases same : other = index
    · rw [same, update_self] at under
      cases under
      exact own
    · rw [update_of_ne same] at under
      exact (backed other running under).carried carries
  have stay : after.attempts = before.attempts → ∀ index attempt,
      after.attempts index = some attempt → after.Backs digest executionId attempt.phase :=
    fun same index attempt under =>
      (backed index attempt ((congrFun same index).symm.trans under)).carried carries
  have records : ∀ operationKey result, before.Records digest executionId operationKey result →
      after.Records digest executionId operationKey result :=
    fun operationKey result kept => kept.carried (carries result kept.1)
  cases move with
  | kernel | cleanup | clean | confirm => exact stay rfl
  | call | fail | begin | start | inspect | collect => exact others _ _ _ rfl trivial
  | create answer =>
    refine others _ _ _ rfl ?_
    cases answer <;> trivial
  | prepare environment under next =>
    refine others _ _ _ rfl ?_
    rename_i index attempt
    cases answered : (prepareEffect attempt.lease (sandboxEffectId digest executionId) executeName
        attempt.request environment before.kernel).1 with
    | error => trivial
    | ok record =>
      unfold SandboxAttempt.prepared
      dsimp only
      by_cases committed : record.state = .committed
      · rw [if_pos committed]
        exact prepareEffect_committed answered committed
      · rw [if_neg committed]
        trivial
  | claim environment under next =>
    refine others _ _ _ rfl ?_
    rename_i index attempt
    cases (claimEffect attempt.lease (sandboxEffectId digest executionId) environment
        before.kernel).1 with
    | error => trivial
    | ok record =>
      unfold SandboxAttempt.claimed
      dsimp only
      cases record.claimId <;> trivial
  | update under next updated =>
    refine others _ _ _ rfl ?_
    rename_i index attempt operationKey values phase journal
    have backs := backed index attempt under
    obtain ⟨record, current, named, rfl⟩ := SandboxJournal.update_eq_some updated
    cases shown : attempt.phase with
    | recovering key result outcome =>
      rw [shown] at next backs
      cases next
      exact ⟨backs.1, _, rfl, (SandboxJournal.apply_operationKey record).trans named, rfl⟩
    | confirming key result failed =>
      rw [shown] at next backs
      cases next
      obtain ⟨answers, same, found, -, recorded⟩ := backs
      obtain rfl := Option.some.inj (current.symm.trans found)
      cases failed <;> exact ⟨answers, _, rfl, recorded, rfl⟩
    | recordingCreated | recordingStarting | recordingRunning | recordingCollected =>
      rw [shown] at next
      cases next
      trivial
    | _ =>
      rw [shown] at next
      cases next
  | commit environment under next =>
    refine others _ _ _ rfl ?_
    rename_i index attempt claimId result
    cases answered : (commitEffect (sandboxEffectId digest executionId) result attempt.lease claimId
        environment before.kernel).1 with
    | error => trivial
    | ok record => exact commitEffect_committed answered
  | read under next =>
    refine others _ _ _ rfl ?_
    rename_i index attempt result
    have backs := backed index attempt under
    rw [next] at backs
    unfold SandboxAttempt.recordRead
    cases current : before.journal.current with
    | none => trivial
    | some record =>
      dsimp only
      cases accepted : record.accepts result with
      | none => trivial
      | some outcome =>
        dsimp only
        by_cases empty : record.result = none
        · rw [if_pos empty]
          exact ⟨backs, record, current, rfl⟩
        · rw [if_neg empty]
          obtain ⟨text, recorded⟩ := ne_none_iff_exists'.mp empty
          have same := SandboxGeneration.accepts_recorded accepted text recorded
          exact ⟨backs, record, current, rfl, same ▸ recorded⟩
  | prepareDisposal environment under next =>
    refine others _ _ _ rfl ?_
    rename_i index attempt operationKey result failed
    have backs := backed index attempt under
    rw [next] at backs
    have kept := records _ _ backs
    cases (prepareEffect attempt.lease
        (disposalEffectId (sandboxEffectId digest executionId) operationKey) disposeName
        (attempt.disposalRequest operationKey) environment before.kernel).1 with
    | error => trivial
    | ok record =>
      unfold SandboxAttempt.disposalPrepared
      dsimp only
      by_cases committed : record.state = .committed
      · rw [if_pos committed]
        unfold SandboxAttempt.disposed
        split
        · exact kept
        · trivial
      · rw [if_neg committed]
        exact kept
  | claimDisposal environment under next =>
    refine others _ _ _ rfl ?_
    rename_i index attempt operationKey result failed
    have backs := backed index attempt under
    rw [next] at backs
    have kept := records _ _ backs
    cases (claimEffect attempt.lease
        (disposalEffectId (sandboxEffectId digest executionId) operationKey) environment
        before.kernel).1 with
    | error => trivial
    | ok record =>
      unfold SandboxAttempt.disposalClaimed
      dsimp only
      cases record.claimId with
      | none => trivial
      | some claimId => exact kept
  | dispose under next step =>
    refine others _ _ _ rfl ?_
    rename_i index attempt operationKey result failed claimId cleanup following journal
    have backs := backed index attempt under
    rw [next] at backs
    have kept := records _ _ backs
    cases following with
    | finished confirmed =>
      cases confirmed with
      | false => trivial
      | true => exact kept
    | raised => trivial
    | _ => exact kept
  | commitDisposal environment under next =>
    refine others _ _ _ rfl ?_
    rename_i index attempt operationKey result failed claimId
    have backs := backed index attempt under
    rw [next] at backs
    have kept := records _ _ backs
    cases (commitEffect (disposalEffectId (sandboxEffectId digest executionId) operationKey)
        SandboxAttempt.disposal attempt.lease claimId environment before.kernel).1 with
    | error => trivial
    | ok record =>
      unfold SandboxAttempt.disposalCommitted SandboxAttempt.disposed
      dsimp only
      split
      · exact kept
      · trivial
  | check under next =>
    refine others _ _ _ rfl ?_
    rename_i index attempt operationKey result failed
    have backs := backed index attempt under
    rw [next] at backs
    obtain ⟨answers, record, current, named, recorded⟩ := backs
    unfold SandboxAttempt.checked
    rw [current]
    dsimp only
    by_cases confirmed : record.cleanupConfirmed = true
    · rw [if_pos confirmed]
      cases failed <;> exact ⟨answers, record, current, recorded, confirmed⟩
    · rw [if_neg confirmed]
      exact ⟨answers, record, current, named, recorded⟩

end Permitted

/-! ### Generations and results in every run -/

section Runs

variable {digest : String → String} {executionId : Identifier} {world : SandboxWorld}

theorem undisturbed_reachable (reachable : (undisturbedSandbox digest executionId).Reachable world) :
    (sandboxSystem digest executionId).Reachable world := by
  refine reachable.invariant _ (fun state initial => .start initial)
    fun state next _ reached step => ?_
  obtain ⟨actor, move, -⟩ := step
  exact reached.next ⟨actor, move⟩

/-- Where all moves are permitted, every attempt that has the response of the effect rests on what
is committed and recorded. -/
theorem undisturbed_backs (reachable : (undisturbedSandbox digest executionId).Reachable world) :
    ∀ index attempt, world.attempts index = some attempt →
      world.Backs digest executionId attempt.phase := by
  refine reachable.invariant (fun world => ∀ index attempt, world.attempts index = some attempt →
    world.Backs digest executionId attempt.phase) ?_ fun before after reached backed step => ?_
  · rintro state ⟨-, -, attempts, -⟩ index attempt under
    rw [attempts] at under
    cases under
  · obtain ⟨actor, move, permitted⟩ := step
    exact move.backs permitted backed (SandboxWorld.sound (undisturbed_reachable reached)).1

/-- In every run a sandbox is created at most once for an operation key; every generation but the
last is disposed of and kept as it is; and where every move is permitted, a handler that returns a
result has the one recorded for the current generation, whose disposal is confirmed. -/
theorem sandbox_generations_lawful (reachable : (sandboxSystem digest executionId).Reachable world) :
    (world.creations.Nodup ∧
      (∀ record ∈ world.journal.history, record.cleanupConfirmed = true) ∧
      world.journal.generations.Pairwise SandboxGeneration.Precedes ∧
      (∀ last, (sandboxSystem digest executionId).Run world last →
        world.journal.history <+: last.journal.history) ∧
      ∀ actor next, SandboxMove digest executionId world actor next →
        (∀ record, next.journal.current = some record →
          (∃ same, world.journal.current = some same ∧ same.operationKey = record.operationKey ∧
            same.intent = record.intent ∧ same.fence = record.fence) ∨
          world.journal.current = none ∨ world.journal.Replaces next.journal) ∧
        ∀ record, world.journal.current = some record →
          world.addressed actor ≠ some record.operationKey →
            next.journal = world.journal ∨ world.journal.Replaces next.journal) ∧
    ((undisturbedSandbox digest executionId).Reachable world →
      ∀ index attempt result, world.attempts index = some attempt →
        (attempt.phase = .returned result ∨ attempt.phase = .exitNonzero result) →
          ∃ record, world.journal.current = some record ∧ record.result = some result.encode ∧
            record.cleanupConfirmed = true) := by
  obtain ⟨-, journal, creates⟩ := SandboxWorld.sound reachable
  refine ⟨⟨creates.once, journal.disposed, journal.ordered, fun last run => ?_,
    fun actor next move => ⟨fun record current => ?_, fun record current other => ?_⟩⟩,
    fun undisturbed index attempt result under ended => ?_⟩
  · refine reachable.keeps (fun state => world.journal.history <+: state.journal.history)
      (fun _ _ _ before step => ?_) prefix_rfl run
    obtain ⟨actor, move⟩ := step
    exact before.trans move.journal.history
  · exact move.journal.begins current
  · exact move.journal.addressed current other
  · have backs := undisturbed_backs undisturbed index attempt under
    rcases ended with returned | exited
    · rw [returned] at backs
      exact backs.2
    · rw [exited] at backs
      exact backs.2

end Runs

/-! ### Runs that are played -/

section Played

variable (digest : String → String) (executionId : Identifier)

/-- The next move of an attempt to which the provider answers well, with these texts. With `careful`
it makes permitted moves only. -/
def SandboxWorld.act (careful : Bool) (world : SandboxWorld) (index : ℕ)
    (environment : Environment) (name : Identifier) (text : String) : Option SandboxWorld := do
  let effectId := sandboxEffectId digest executionId
  let attempt ← world.attempts index
  match attempt.phase with
  | .preparing =>
    let outcome := prepareEffect attempt.lease effectId executeName attempt.request environment
      world.kernel
    return { world.moved index attempt (SandboxAttempt.prepared outcome.1) with
      kernel := outcome.2 }
  | .claiming =>
    let outcome := claimEffect attempt.lease effectId environment world.kernel
    return { world.moved index attempt (SandboxAttempt.claimed outcome.1) with
      kernel := outcome.2 }
  | .beginning claimId =>
    guard (text ∉ world.drawn ∧ ¬ (careful = true ∧
      ((world.kernel.database.effects.find? effectId).any fun effect =>
        decide (effect.state = .committed)) = true))
    let journal ← world.journal.begin (attempt.intent effectId) attempt.lease text
    return { world.moved index attempt (.creating claimId text) with
      journal, drawn := text :: world.drawn }
  | .creating claimId operationKey =>
    return { world.moved index attempt (.recordingCreated claimId operationKey name) with
      creations := operationKey :: world.creations }
  | .starting claimId operationKey sandboxId =>
    return world.moved index attempt (.recordingRunning claimId operationKey sandboxId name)
  | .inspecting claimId operationKey sandboxId commandId =>
    return world.moved index attempt (.collecting claimId operationKey sandboxId commandId false 0)
  | .collecting claimId operationKey sandboxId commandId failed exitCode =>
    return world.moved index attempt (.recordingCollected claimId operationKey
      (performedResult failed exitCode (.string text) sandboxId commandId))
  | .committing claimId result =>
    let outcome := commitEffect effectId result attempt.lease claimId environment world.kernel
    return { world.moved index attempt (SandboxAttempt.committed outcome.1) with
      kernel := outcome.2 }
  | .reading result =>
    return world.moved index attempt (SandboxAttempt.recordRead result world.journal.current)
  | .preparingDisposal operationKey result failed =>
    let outcome := prepareEffect attempt.lease (disposalEffectId effectId operationKey) disposeName
      (attempt.disposalRequest operationKey) environment world.kernel
    return { world.moved index attempt
        (SandboxAttempt.disposalPrepared operationKey result failed outcome.1) with
      kernel := outcome.2 }
  | .claimingDisposal operationKey result failed =>
    let outcome := claimEffect attempt.lease (disposalEffectId effectId operationKey) environment
      world.kernel
    return { world.moved index attempt
        (SandboxAttempt.disposalClaimed operationKey result failed outcome.1) with
      kernel := outcome.2 }
  | .disposing operationKey result failed claimId (.reading expected maxFence) =>
    return world.moved index attempt (SandboxAttempt.disposalMoved operationKey result failed claimId
      (attempt.handler.cleanupRead expected maxFence world.journal.current))
  | .disposing operationKey result failed claimId (.terminating key sandboxId) =>
    return world.moved index attempt (SandboxAttempt.disposalMoved operationKey result failed claimId
      (.recording key sandboxId))
  | .disposing operationKey result failed claimId (.recording key sandboxId) =>
    let journal ← world.journal.update key (.cleaned (.object
      [("source", .string "backend.terminate"), ("sandbox_id", sandboxId.toJson)]))
    return { world.moved index attempt
        (SandboxAttempt.disposalMoved operationKey result failed claimId (.finished true)) with
      journal }
  | .committingDisposal operationKey result failed claimId =>
    let outcome := commitEffect (disposalEffectId effectId operationKey) SandboxAttempt.disposal
      attempt.lease claimId environment world.kernel
    return { world.moved index attempt
        (SandboxAttempt.disposalCommitted operationKey result failed outcome.1) with
      kernel := outcome.2 }
  | .checking operationKey result failed =>
    return world.moved index attempt
      (SandboxAttempt.checked operationKey result failed world.journal.current)
  | phase =>
    let (operationKey, values, following) ← SandboxAttempt.update phase
    guard (¬ (careful = true ∧ ∃ record ∈ world.journal.current, record.result ≠ none))
    let journal ← world.journal.update operationKey values
    return { world.moved index attempt following with journal }

end Played

section Played

variable {digest : String → String} {executionId : Identifier} {careful : Bool}
  {world next : SandboxWorld} {index : ℕ} {environment : Environment} {name : Identifier}
  {text : String}

theorem SandboxWorld.act_moves
    (played : world.act digest executionId careful index environment name text = some next) :
    SandboxMove digest executionId world (.attempt index) next := by
  unfold act at played
  obtain ⟨attempt, under, played⟩ := bind_eq_some_iff.mp played
  have updates : ∀ {phase : AttemptPhase}, attempt.phase = phase →
      (do
        let (operationKey, values, following) ← SandboxAttempt.update phase
        guard (¬ (careful = true ∧ ∃ record ∈ world.journal.current, record.result ≠ none))
        let journal ← world.journal.update operationKey values
        return { world.moved index attempt following with journal } : Option SandboxWorld) =
          some next →
      SandboxMove digest executionId world (.attempt index) next := by
    intro phase shown played
    obtain ⟨⟨operationKey, values, following⟩, changes, played⟩ := bind_eq_some_iff.mp played
    obtain ⟨-, -, played⟩ := bind_eq_some_iff.mp played
    obtain ⟨journal, updated, played⟩ := bind_eq_some_iff.mp played
    cases played
    exact .update under (shown ▸ changes) updated
  cases shown : attempt.phase with
  | preparing =>
    rw [shown] at played
    cases played
    exact .prepare environment under shown
  | claiming =>
    rw [shown] at played
    cases played
    exact .claim environment under shown
  | beginning claimId =>
    rw [shown] at played
    obtain ⟨_, allowed, played⟩ := bind_eq_some_iff.mp played
    obtain ⟨journal, begun, played⟩ := bind_eq_some_iff.mp played
    cases played
    exact .begin under shown ((guard_eq_some' _).mp allowed).1 begun
  | creating claimId operationKey =>
    rw [shown] at played
    cases played
    exact .create (some name) under shown
  | starting claimId operationKey sandboxId =>
    rw [shown] at played
    cases played
    exact .start name under shown
  | inspecting claimId operationKey sandboxId commandId =>
    rw [shown] at played
    cases played
    exact .inspect false 0 under shown
  | collecting claimId operationKey sandboxId commandId failed exitCode =>
    rw [shown] at played
    cases played
    exact .collect (.string text) under shown
  | committing claimId result =>
    rw [shown] at played
    cases played
    exact .commit environment under shown
  | reading result =>
    rw [shown] at played
    cases played
    exact .read under shown
  | preparingDisposal operationKey result failed =>
    rw [shown] at played
    cases played
    exact .prepareDisposal environment under shown
  | claimingDisposal operationKey result failed =>
    rw [shown] at played
    cases played
    exact .claimDisposal environment under shown
  | disposing operationKey result failed claimId cleanup =>
    rw [shown] at played
    cases cleanup with
    | reading expected maxFence =>
      cases played
      exact .dispose under shown (.read expected maxFence)
    | terminating key sandboxId =>
      cases played
      exact .dispose under shown (.terminate key sandboxId true)
    | recording key sandboxId =>
      obtain ⟨journal, updated, played⟩ := bind_eq_some_iff.mp played
      cases played
      exact .dispose under shown (.record updated)
    | _ => exact updates shown played
  | committingDisposal operationKey result failed claimId =>
    rw [shown] at played
    cases played
    exact .commitDisposal environment under shown
  | checking operationKey result failed =>
    rw [shown] at played
    cases played
    exact .check under shown
  | _ =>
    rw [shown] at played
    exact updates shown played

theorem SandboxWorld.act_permitted
    (played : world.act digest executionId true index environment name text = some next) :
    world.Permits digest executionId (.attempt index) := by
  intro attempt under
  unfold act at played
  rw [under] at played
  refine ⟨fun claimId shown => ?_,
    fun claimId operationKey result shown record current _ known recorded => ?_⟩
  · simp only [bind_eq_bind, bind_some, shown] at played
    obtain ⟨_, allowed, -⟩ := bind_eq_some_iff.mp played
    have unsettled := ((guard_eq_some' _).mp allowed).2
    rintro ⟨effect, found, committed⟩
    refine unsettled ⟨trivial, ?_⟩
    rw [found]
    simpa using committed
  · simp only [bind_eq_bind, bind_some, shown, SandboxAttempt.update] at played
    obtain ⟨_, allowed, -⟩ := bind_eq_some_iff.mp played
    have unrecorded := (guard_eq_some' _).mp allowed
    refine absurd ⟨trivial, record, current, ?_⟩ unrecorded
    rw [recorded]
    exact some_ne_none known

/-- A list of moves, each with what the attempt of this number meets outside. -/
def SandboxWorld.play (digest : String → String) (executionId : Identifier) (careful : Bool)
    (world : SandboxWorld) (moves : List (ℕ × Environment × Identifier × String)) :
    Option SandboxWorld :=
  moves.foldlM (fun world move =>
    world.act digest executionId careful move.1 move.2.1 move.2.2.1 move.2.2.2) world

variable {moves : List (ℕ × Environment × Identifier × String)}

theorem SandboxWorld.play_reaches (reachable : (sandboxSystem digest executionId).Reachable world)
    (played : world.play digest executionId careful moves = some next) :
    (sandboxSystem digest executionId).Reachable next := by
  induction moves generalizing world with
  | nil =>
    cases played
    exact reachable
  | cons move rest hypothesis =>
    obtain ⟨middle, acted, played⟩ := bind_eq_some_iff.mp played
    exact hypothesis (reachable.next ⟨_, act_moves acted⟩) played

theorem SandboxWorld.play_undisturbed
    (reachable : (undisturbedSandbox digest executionId).Reachable world)
    (played : world.play digest executionId true moves = some next) :
    (undisturbedSandbox digest executionId).Reachable next := by
  induction moves generalizing world with
  | nil =>
    cases played
    exact reachable
  | cons move rest hypothesis =>
    obtain ⟨middle, acted, played⟩ := bind_eq_some_iff.mp played
    exact hypothesis (reachable.next ⟨_, act_moves acted, act_permitted acted⟩) played

theorem undisturbed_after (reachable : (undisturbedSandbox digest executionId).Reachable world)
    (calls : List (Operation × Environment)) :
    (undisturbedSandbox digest executionId).Reachable
      { world with kernel := world.kernel.after calls } := by
  induction calls generalizing world with
  | nil => exact reachable
  | cons call rest hypothesis =>
    exact hypothesis (reachable.next ⟨.kernel, .kernel call.1 call.2, trivial⟩)

end Played

/-! ### Two runs of one execution -/

def sampleSandbox : SandboxHandler := ⟨sampleName, sampleName, "journal"⟩

def sampleFirst : SandboxAttempt :=
  ⟨sampleSandbox, sampleLease 3 third_positive, sampleName, 1, .null, .preparing⟩

/-- What the kernel is asked to do before: the execution is submitted, claimed and started. -/
def sampleStarted : List (Operation × Environment) :=
  [(.enrol (.submit sampleCommand), sampleEnvironment 0),
    (.work (.claim ⟨sampleName, none, none, none, none, none⟩), sampleEnvironment 0),
    (.work (.start (sampleLease 2 second_positive)), sampleEnvironment 0)]

def sampleSandboxes : SandboxWorld where
  kernel := (KernelState.initial sampleName).after sampleStarted
  journal := ⟨none, []⟩
  attempts := fun _ => none
  cleanups := fun _ => none
  drawn := []
  creations := []

theorem sampleSandboxes_reachable :
    (undisturbedSandbox id sampleName).Reachable sampleSandboxes := by
  have fresh : (undisturbedSandbox id sampleName).Reachable
      { sampleSandboxes with kernel := .initial sampleName } :=
    .start ⟨⟨sampleName, rfl⟩, rfl, rfl, rfl, rfl⟩
  exact undisturbed_after fresh sampleStarted

def sampleMoves (count index : ℕ) (wall : Timestamp) : List (ℕ × Environment × Identifier × String) :=
  List.replicate count (index, sampleEnvironment wall, sampleName, "key")

def sampleRecovered : Json :=
  performedResult false 0 (.string "recovered") sampleName sampleName

def sampleSecondLease (revision : ℕ) (positive : 1 ≤ revision) : ExecutionLease where
  executionId := sampleName
  leaseId := sampleName
  owner := sampleName
  fence := 2
  attempt := 2
  expiresAt := 40
  revision := revision
  fencePositive := second_positive
  attemptPositive := second_positive
  revisionPositive := positive

/-- The lease of the first attempt ends, somebody decides that its effect was applied, and the
execution is claimed again. -/
def sampleTakenOver : List (Operation × Environment) :=
  [(.work .reap, sampleEnvironment 20),
    (.work (.resolveEffect (sandboxEffectId id sampleName) .applied sampleRecovered 3 sampleName),
      sampleEnvironment 20),
    (.work (.claim ⟨sampleName, none, none, none, none, none⟩), sampleEnvironment 30),
    (.work (.start (sampleSecondLease 6 (by decide))), sampleEnvironment 30)]

def sampleSecond : SandboxAttempt :=
  ⟨sampleSandbox, sampleSecondLease 7 (by decide), sampleName, 1, .null, .preparing⟩

def sampleReturned : Option SandboxWorld :=
  (sampleSandboxes.moved 0 sampleFirst .preparing).play id sampleName true (sampleMoves 20 0 0)

/-- The first attempt has collected its output and has not recorded it yet. -/
def sampleCollected : Option SandboxWorld :=
  (sampleSandboxes.moved 0 sampleFirst .preparing).play id sampleName true (sampleMoves 10 0 0)

/-- The execution of the first attempt is taken over, and the second attempt begins. -/
def SandboxWorld.takenOver (world : SandboxWorld) : SandboxWorld :=
  { world with kernel := world.kernel.after sampleTakenOver }.moved 1 sampleSecond .preparing

/-- The second attempt goes on until its disposal is settled; then the first one records what it has
collected. -/
def sampleStrayed : Option SandboxWorld :=
  sampleCollected.bind fun world => world.takenOver.play id sampleName false
    (sampleMoves 9 1 30 ++ sampleMoves 1 0 30 ++ sampleMoves 1 1 30)

theorem sampleFirst_called : (undisturbedSandbox id sampleName).Reachable
    (sampleSandboxes.moved 0 sampleFirst .preparing) :=
  sampleSandboxes_reachable.next ⟨.attempt 0, .call rfl rfl, nofun⟩

/-- The result that an attempt has returned. -/
def AttemptPhase.answer : AttemptPhase → Option Json
  | .returned result => some result
  | _ => none

theorem AttemptPhase.answer_eq {phase : AttemptPhase} {result : Json}
    (answered : phase.answer = some result) : phase = .returned result := by
  cases phase <;> cases answered
  rfl

/-- Without any stray move the result is the recorded one. -/
theorem sandbox_generations_lawful_sample : ∃ world,
    (undisturbedSandbox id sampleName).Reachable world ∧ world.creations.Nodup ∧
      ∃ attempt result record, world.attempts 0 = some attempt ∧
        attempt.phase = .returned result ∧ world.journal.current = some record ∧
        record.result = some result.encode ∧ record.cleanupConfirmed = true := by
  have outcome : sampleReturned.any (fun world =>
      (world.attempts 0).any fun attempt => attempt.phase.answer.isSome) = true := by
    decide +kernel
  obtain ⟨world, played, outcome⟩ := (any_eq_true _ _).mp outcome
  obtain ⟨attempt, under, outcome⟩ := (any_eq_true _ _).mp outcome
  obtain ⟨result, answered⟩ := isSome_iff_exists.mp outcome
  have returned := AttemptPhase.answer_eq answered
  have undisturbed := SandboxWorld.play_undisturbed sampleFirst_called played
  have lawful := sandbox_generations_lawful (undisturbed_reachable undisturbed)
  obtain ⟨record, current, recorded, confirmed⟩ :=
    lawful.2 undisturbed 0 attempt result under (.inl returned)
  exact ⟨world, undisturbed, lawful.1.1, attempt, result, record, under, returned, current,
    recorded, confirmed⟩

/-- An attempt that has lost its authority records what it has collected after a decision, and a
later one returns a result that is not the recorded one. -/
theorem sandbox_result_replaced : ∃ world, (sandboxSystem id sampleName).Reachable world ∧
    ∃ attempt result record, world.attempts 1 = some attempt ∧ attempt.phase = .returned result ∧
      world.journal.current = some record ∧ record.result ≠ some result.encode := by
  have outcome : ((sampleCollected.any fun world => (world.attempts 1).isNone) &&
      (sampleStrayed.any fun world => (world.attempts 1).any fun attempt =>
        attempt.phase.answer.any fun result => world.journal.current.any fun record =>
          decide (record.result ≠ some result.encode))) = true := by
    decide +kernel
  obtain ⟨first, second⟩ := Bool.and_eq_true_iff.mp outcome
  obtain ⟨collected, before, vacant⟩ := (any_eq_true _ _).mp first
  obtain ⟨world, played, outcome⟩ := (any_eq_true _ _).mp second
  obtain ⟨attempt, under, outcome⟩ := (any_eq_true _ _).mp outcome
  obtain ⟨result, answered, outcome⟩ := (any_eq_true _ _).mp outcome
  obtain ⟨record, current, differs⟩ := (any_eq_true _ _).mp outcome
  have taken := undisturbed_after
    (SandboxWorld.play_undisturbed sampleFirst_called before) sampleTakenOver
  have called : (sandboxSystem id sampleName).Reachable collected.takenOver :=
    (undisturbed_reachable taken).next ⟨.attempt 1, .call (isNone_iff_eq_none.mp vacant) rfl⟩
  unfold sampleStrayed at played
  rw [before] at played
  exact ⟨world, SandboxWorld.play_reaches called played, attempt, result, record, under,
    AttemptPhase.answer_eq answered, current, of_decide_eq_true differs⟩

end DispatcherSdk.ExecutionKernel
