/-
This file puts the observation journal and the Kernel together and proves that stall
episodes are exact, however the two are interleaved.

The two stores commit separately. A supervisor asks the Kernel to register an episode, and
tells the journal of the answer later or never; the Kernel goes on meanwhile. What the
Kernel has answered is kept in a list, for the calls that still carry it.
-/

import DispatcherSdk.ExecutionKernel.CancelAuthority
import DispatcherSdk.Observability.StallEpisodes

namespace DispatcherSdk.Observability

open ExecutionKernel Library Library.Checked Relation Table List

/-! ### The two stores -/

/-- The journal with its supervisors, the Kernel, and the episodes that it has registered. -/
structure StallSystem where
  supervisor : SupervisorState
  kernel : KernelState
  registered : List StallDisposition

/-- `kernel.register_stall_episode(**disposition)`. -/
def registerDisposition (disposition : StallDisposition) (environment : Environment)
    (state : KernelState) : Except KernelError Unit × KernelState :=
  match disposition.episodeId, disposition.policyVersion with
  | some episodeId, some policyVersion =>
    registerStallEpisode disposition.executionId disposition.attempt disposition.fence
      disposition.progressRevision episodeId policyVersion environment state
  | none, _ => (.error (.value "episode_id must be non-empty"), state)
  | some _, none => (.error (.value "policy_version must be non-empty"), state)

/-- The system after the Kernel was asked to register a disposition. -/
def StallSystem.registering (system : StallSystem) (disposition : StallDisposition)
    (environment : Environment) : StallSystem :=
  match registerDisposition disposition environment system.kernel with
  | (.ok _, kernel) => ⟨system.supervisor, kernel, disposition :: system.registered⟩
  | (.error _, kernel) => ⟨system.supervisor, kernel, system.registered⟩

/-- A transaction of a supervisor or of the Kernel. -/
inductive StallStep (arithmetic : FloatArithmetic) : StallSystem → StallSystem → Prop
  | supervise {system supervisor}
      (step : SupervisorStep arithmetic (fun _ _ => True)
        (fun row => row.disposition ∈ system.registered) system.supervisor supervisor) :
      StallStep arithmetic system { system with supervisor }
  | register {system} (disposition environment) :
      StallStep arithmetic system (system.registering disposition environment)
  | progress {system} (lease eventId environment) :
      StallStep arithmetic system
        { system with kernel := (confirmProgress lease eventId environment system.kernel).2 }
  | policy {system} (executionId attempt fence policyVersion environment) :
      StallStep arithmetic system
        { system with
          kernel := (setStallPolicy executionId attempt fence policyVersion environment
            system.kernel).2 }
  | clear {system} (expected environment) :
      StallStep arithmetic system
        { system with kernel := (clearStallEpisode expected environment system.kernel).2 }
  | elsewhere {system} (operation : Operation) (environment)
      (spares : (operation.apply environment system.kernel).database.supervision =
        system.kernel.database.supervision) :
      StallStep arithmetic system
        { system with kernel := operation.apply environment system.kernel }

def stallSystem (arithmetic : FloatArithmetic) : TransitionSystem StallSystem where
  initial system := ∃ storeId, system = ⟨.empty, .initial storeId, []⟩
  step := StallStep arithmetic

/-! ### The Kernel in the system -/

section Kernel

variable {Answer : Type} {environment : Environment} {state : KernelState}

theorem supervises_of_body {body : Timestamp → KernelM Answer}
    (ensures : ∀ now session, Library.Attempt.Ensures (body now) environment
      ⟨state.database, session⟩ fun _ next => state.database.Supervises next.database) :
    (transaction body environment state).2.database.supervision = state.database.supervision ∨
      state.database.Supervises (transaction body environment state).2.database := by
  have advances : Advances (fun _ before after => before.Supervises after) state
      (transaction body environment state).2 := transaction_advances ensures
  rcases advances.tables with same | ⟨_, _, _, supervises⟩
  · left
    rw [same]
  · exact .inr supervises

theorem confirmProgress_step (lease : ExecutionLease) (eventId : Identifier)
    (environment : Environment) (state : KernelState) :
    StallKernelStep state (confirmProgress lease eventId environment state).2 := by
  refine ⟨⟨.work (.confirmProgress lease eventId), environment, rfl⟩, ?_⟩
  unfold confirmProgress
  split
  · exact .inl rfl
  · exact supervises_of_body fun _ _ => confirmProgressBody_supervises.mono fun _ _ done => done.1

theorem registerDisposition_step (disposition : StallDisposition) (environment : Environment)
    (state : KernelState) :
    StallKernelStep state (registerDisposition disposition environment state).2 ∨
      (registerDisposition disposition environment state).2 = state := by
  unfold registerDisposition
  split
  · rename_i episodeId policyVersion _ _
    refine Or.inl ⟨⟨.work (.registerStallEpisode disposition.executionId disposition.attempt
      disposition.fence disposition.progressRevision episodeId policyVersion), environment, rfl⟩, ?_⟩
    exact supervises_of_body fun _ _ =>
      registerStallEpisodeBody_supervises.mono fun _ _ done => done.1
  · exact .inr rfl
  · exact .inr rfl

variable {disposition : StallDisposition}

theorem registerDisposition_current
    (registered : (registerDisposition disposition environment state).1 = .ok ()) :
    disposition.Current (registerDisposition disposition environment state).2.database := by
  unfold registerDisposition at registered ⊢
  split at registered
  · rename_i episodeId policyVersion named versioned
    have same : disposition = ⟨disposition.executionId, disposition.attempt, disposition.fence,
        disposition.progressRevision, some episodeId, some policyVersion⟩ := by
      cases disposition
      simp_all
    conv =>
      arg 1
      rw [same]
    exact transaction_answers (fun _ database => StallDisposition.Current
      ⟨disposition.executionId, disposition.attempt, disposition.fence,
        disposition.progressRevision, some episodeId, some policyVersion⟩ database)
      (fun _ _ _ => registerStallEpisodeBody_supervises.mono fun _ _ done => done.2) registered
  · cases registered
  · cases registered

theorem setStallPolicy_step (executionId : Identifier) (attempt fence : ℕ)
    (policyVersion : Identifier) (environment : Environment) (state : KernelState) :
    StallKernelStep state
      (setStallPolicy executionId attempt fence policyVersion environment state).2 :=
  ⟨⟨.work (.setStallPolicy executionId attempt fence policyVersion), environment, rfl⟩,
    supervises_of_body fun _ _ => setStallPolicyBody_supervises⟩

theorem clearStallEpisode_step (expected : StallDisposition) (environment : Environment)
    (state : KernelState) :
    StallKernelStep state (clearStallEpisode expected environment state).2 :=
  ⟨⟨.work (.clearStallEpisode expected), environment, rfl⟩,
    supervises_of_body fun _ _ => clearStallEpisodeBody_supervises⟩

variable {lease : ExecutionLease} {answer : ProgressAnswer}

section

variable {eventId : Identifier}
  (confirmed : (confirmProgress lease eventId environment state).1 = .ok answer)

include confirmed

theorem confirmProgress_answers (new : answer.new = true) :
    ∃ supervision ∈ (confirmProgress lease eventId environment state).2.database.supervision.find?
        lease.executionId,
      supervision.attempt = lease.attempt ∧ supervision.fence = lease.fence ∧
      supervision.progressRevision = answer.progressRevision ∧ supervision.episodeId = none ∧
      ∃ row, (state.database.supervised row).progressRevision < answer.progressRevision ∧
        state.database.executions.find? lease.executionId = some row := by
  unfold confirmProgress at confirmed ⊢
  split at confirmed
  · cases confirmed
  rename_i short
  rw [if_neg short]
  exact transaction_answers (fun answer database => answer.new = true →
      ∃ supervision ∈ database.supervision.find? lease.executionId,
        supervision.attempt = lease.attempt ∧ supervision.fence = lease.fence ∧
        supervision.progressRevision = answer.progressRevision ∧ supervision.episodeId = none ∧
        ∃ row, (state.database.supervised row).progressRevision < answer.progressRevision ∧
          state.database.executions.find? lease.executionId = some row)
    (fun _ _ _ => confirmProgressBody_supervises.mono fun _ _ done => done.2) confirmed new

theorem confirmProgress_overtakes (new : answer.new = true)
    (own : disposition.executionId = lease.executionId)
    (current : disposition.Current state.database) :
    disposition.Overtaken (confirmProgress lease eventId environment state).2.database := by
  obtain ⟨supervision, found, -, -, progress, -, row, grown, stored⟩ :=
    confirmProgress_answers confirmed new
  have step := confirmProgress_step lease eventId environment state
  refine step.overtakes current (own.symm ▸ found) (.inl ?_)
  obtain ⟨running, present, before, known, -, sameAttempt, sameFence, heldAttempt, heldFence,
    sameProgress, -⟩ := current
  rw [own] at present known
  cases present.symm.trans stored
  have same : state.database.supervised row = before := by
    unfold Database.supervised
    rw [key_of_find? stored, known, Option.filter_some_pos
      (by simp [sameAttempt, sameFence, heldAttempt, heldFence])]
    rfl
  rw [same, ← progress] at grown
  omega

end

end Kernel

/-! ### Deliveries that were begun -/

/-- The deliveries begun are those allowed, for each time that somebody asked for them again, and
those since. -/
structure DeliveriesCounted (state : SupervisorState) : Prop where
  counted : ∀ notice ∈ state.store.outbox, state.deliveries.count notice.notificationId ≤
      notice.maxAttempts * state.retries.count notice.notificationId + notice.attempts
  delivered : ∀ name ∈ state.deliveries, ∃ notice ∈ state.store.outbox, notice.notificationId = name

/-- How the counts of one notification change with what becomes of it. -/
def Spending.counts (spending : Spending) (before after : ℕ × ℕ) : Prop :=
  match spending with
  | nothing => after = before
  | delivery => after = (before.1 + 1, before.2)
  | reset => after = (before.1, before.2 + 1)

section Counting

variable {registered : StallDisposition → Prop} {spending : Identifier → Spending}
  {state : SupervisorState} {after : ObservationStore} {deliveries retries : List Identifier}

section

variable (counted : DeliveriesCounted state) (sound : NoticesSound registered state.store)

include counted sound

theorem DeliveriesCounted.moved (moves : EpisodesMove registered spending state.store after)
    (counts : ∀ name, (spending name).counts (state.deliveries.count name, state.retries.count name)
      (deliveries.count name, retries.count name))
    (present : ∀ name ∈ deliveries, name ∈ state.deliveries ∨
      ∃ notice ∈ after.outbox, notice.notificationId = name) :
    DeliveriesCounted ⟨after, state.reads, state.log, deliveries, retries⟩ := by
  refine ⟨fun later member => ?_, fun name member => ?_⟩
  · obtain ⟨notice, old, moved⟩ := moves.kept later member
    have held := counted.counted notice old
    have begun := (sound.bounded notice old).begun
    have counts := counts notice.notificationId
    have attempts := moved.attempts
    rw [moved.notificationId, moved.maxAttempts, attempts]
    unfold Spending.counts at counts
    unfold Spending.spend
    split at counts <;> rename_i kind <;> rw [kind] <;> dsimp only at counts ⊢ <;>
      obtain ⟨deliveredSame, retriedSame⟩ := Prod.mk.inj counts <;>
      rw [deliveredSame, retriedSame]
    · exact held
    · omega
    · rw [Nat.mul_add, Nat.mul_one]
      omega
  · rcases present name member with before | here
    · obtain ⟨notice, old, same⟩ := counted.delivered name before
      obtain ⟨later, kept, moved⟩ := moves.sent notice old
      exact ⟨later, kept, moved.notificationId.trans same⟩
    · exact here

theorem DeliveriesCounted.rest (moves : EpisodesMove registered atRest state.store after)
    {reads : List PolicyRow} {log : List Evaluation} :
    DeliveriesCounted ⟨after, reads, log, state.deliveries, state.retries⟩ := by
  have kept : DeliveriesCounted ⟨after, state.reads, state.log, state.deliveries, state.retries⟩ :=
    counted.moved sound moves (fun _ => rfl) fun _ => Or.inl
  exact ⟨kept.counted, kept.delivered⟩

end

end Counting

/-! ### Runs of the system -/

/-- What holds of the two stores in every state. -/
structure StallSystem.Sound (system : StallSystem) : Prop where
  kernel : ExecutionKernel.kernel.Reachable system.kernel
  stalls : system.kernel.database.StallsReached
  remembers : system.supervisor.Remembers
  notices : NoticesSound (· ∈ system.registered) system.supervisor.store
  owned : EpisodesOwned system.supervisor.store
  counted : DeliveriesCounted system.supervisor

variable {store : ObservationStore}

theorem NoticesSound.mono {registered wider : StallDisposition → Prop}
    (sound : NoticesSound registered store)
    (imply : ∀ disposition, registered disposition → wider disposition) :
    NoticesSound wider store :=
  ⟨sound.tokens, sound.owners, fun notice member delivers =>
    imply _ (sound.answered notice member delivers), sound.allowance, sound.bounded⟩

theorem NoticesSound.congr {registered : StallDisposition → Prop}
    {before after : ObservationStore} (sound : NoticesSound registered before)
    (episodes : after.episodes = before.episodes) (outbox : after.outbox = before.outbox) :
    NoticesSound registered after := by
  refine ⟨?_, ?_, ?_, ?_, ?_⟩
  · rw [episodes]
    exact sound.tokens
  · rw [episodes, outbox]
    exact sound.owners
  · rw [outbox]
    exact sound.answered
  · rw [outbox]
    exact sound.allowance
  · rw [outbox]
    exact sound.bounded

theorem DeliveriesCounted.congr {before after : SupervisorState}
    (counted : DeliveriesCounted before) (outbox : after.store.outbox = before.store.outbox)
    (deliveries : after.deliveries = before.deliveries) (retries : after.retries = before.retries) :
    DeliveriesCounted after := by
  refine ⟨?_, ?_⟩
  · rw [outbox, deliveries, retries]
    exact counted.counted
  · rw [outbox, deliveries]
    exact counted.delivered

theorem DeliveriesCounted.begun {state : SupervisorState} (counted : DeliveriesCounted state)
    (row : PolicyRow) (reading : Reading) (consecutive : ℕ) {drawn : DrawnIds}
    (fresh : state.store.outbox.find? drawn.notificationId = none) :
    DeliveriesCounted
      { state with store := beginEpisode row reading consecutive drawn state.store } := by
  have apart := find?_eq_none_iff.mp fresh
  refine ⟨fun notice member => ?_, fun name member => ?_⟩
  · rcases mem_put.mp member with rfl | ⟨old, -⟩
    · have absent : drawn.notificationId ∉ state.deliveries := fun delivered => by
        obtain ⟨notice, stored, same⟩ := counted.delivered _ delivered
        exact apart notice stored same
      show state.deliveries.count drawn.notificationId ≤ _
      rw [count_eq_zero_of_not_mem absent]
      exact Nat.zero_le _
    · exact counted.counted notice old
  · obtain ⟨notice, stored, same⟩ := counted.delivered name member
    exact ⟨notice, mem_put_of_fresh _ fresh stored, same⟩

variable {notificationId : Identifier} {after : ObservationStore}

theorem claimDelivery_policies {lease : DeliveryLease} {now : Timestamp}
    (claimed : claimDelivery notificationId lease now store = some after) :
    after.policies = store.policies := by
  unfold claimDelivery at claimed
  dsimp only at claimed
  split at claimed
  · cases claimed
  split at claimed <;> cases claimed
  rfl

theorem retryDead_policies {expectedRevision : ℕ} {now : Timestamp}
    (accepted : retryDead notificationId expectedRevision now store = .ok after) :
    after.policies = store.policies := by
  simp only [retryDead, bind_eq_ok] at accepted
  obtain ⟨_, _, _, _, done⟩ := accepted
  cases done
  rfl

section Runs

variable {arithmetic : FloatArithmetic} {system next : StallSystem}

theorem SupervisorState.Remembers.keep {state : SupervisorState}
    {log : List Evaluation} {deliveries retries : List Identifier} (remembers : state.Remembers)
    (kept : WindowsKept state.store after) :
    SupervisorState.Remembers ⟨after, state.reads, log, deliveries, retries⟩ := by
  intro copy member
  obtain ⟨chosen, current, stored, advanced⟩ := remembers copy member
  obtain ⟨later, present, further⟩ := kept.forward current stored (advanced.chosen chosen)
  exact ⟨chosen, later, present, advanced.trans further⟩

theorem StallSystem.Sound.supervised (sound : system.Sound) {supervisor : SupervisorState}
    (step : SupervisorStep arithmetic (fun _ _ => True)
      (fun row => row.disposition ∈ system.registered) system.supervisor supervisor) :
    StallSystem.Sound { system with supervisor } := by
  -- The transactions that neither evaluate nor count are all of one kind.
  have rest : ∀ {after : ObservationStore}, WindowsKept system.supervisor.store after →
      EpisodesMove (· ∈ system.registered) atRest system.supervisor.store after →
      EpisodesOwned after →
      StallSystem.Sound { system with supervisor := { system.supervisor with store := after } } :=
    fun kept moves owned => ⟨sound.kernel, sound.stalls, sound.remembers.keep kept,
      sound.notices.moved moves, owned, sound.counted.rest sound.notices moves⟩
  cases step with
  | watch subscription previous authority maxPolicies now accepted =>
    exact rest (watch_kept accepted) (watch_moves accepted) (sound.owned.watched accepted)
  | select row status =>
    have tables := selectPolicy_tables row status system.supervisor.store
    exact rest (selectPolicy_kept row status _) (.of_same tables.1 tables.2)
      (sound.owned.selected row status)
  | read row stored active =>
    refine ⟨sound.kernel, sound.stalls, fun copy member => ?_, sound.notices, sound.owned,
      ⟨sound.counted.counted, sound.counted.delivered⟩⟩
    rcases mem_cons.mp member with rfl | old
    · exact ⟨by rw [active]; rfl, copy, stored, .refl copy⟩
    · exact sound.remembers copy old
  | evaluate row sampler reading drawn readBefore permitted committed =>
    obtain ⟨⟨current, found, sameRevision, active⟩, fresh, rfl⟩ := evaluate_eq_some committed
    have stored := sound.remembers.stored readBefore found sameRevision
    rw [find?_key stored] at found
    cases found
    have moves : EpisodesMove (· ∈ system.registered) atRest system.supervisor.store
        (endedStore row reading (assess arithmetic sampler row reading) system.supervisor.store) :=
      endedStore_moves row reading _ _
    obtain ⟨episodes, outbox⟩ := commitAssessment_eq row reading
      (assess arithmetic sampler row reading) drawn system.supervisor.store
    have notices := sound.notices.moved moves
    have counted : DeliveriesCounted
        { system.supervisor with
          store := endedStore row reading (assess arithmetic sampler row reading)
            system.supervisor.store } := sound.counted.rest sound.notices moves
    refine ⟨sound.kernel, sound.stalls, fun copy member => ?_, ?_,
      sound.owned.evaluated stored active, ?_⟩
    · obtain ⟨chosen, older, before, advanced⟩ := sound.remembers copy member
      obtain ⟨later, present, further⟩ := commitAssessment_forward stored older before
      exact ⟨chosen, later, present, advanced.trans further⟩
    · cases begins : (assess arithmetic sampler row reading).begins with
      | false =>
        rw [begins] at episodes outbox
        exact notices.congr episodes outbox
      | true =>
        rw [begins, if_pos rfl] at episodes outbox
        exact (notices.begun row reading _ (moves.episode_fresh (fresh begins).1)).congr episodes outbox
    · cases begins : (assess arithmetic sampler row reading).begins with
      | false =>
        rw [begins] at outbox
        exact counted.congr outbox rfl rfl
      | true =>
        rw [begins, if_pos rfl] at outbox
        exact (counted.begun row reading _ (moves.notice_fresh (fresh begins).2.1)).congr outbox rfl rfl
  | clear row =>
    exact rest (clearEpisode_kept row _) (clearEpisode_moves row _) (sound.owned.cleared row)
  | confirm row stored registered =>
    have moves : EpisodesMove (· ∈ system.registered) atRest system.supervisor.store
        (confirmEpisode row system.supervisor.store) := by
      refine confirmEpisode_moves fun notice member own => ?_
      obtain ⟨episode, present, same, token⟩ := sound.notices.owners notice member
      cases eq_of_key_eq present stored (same.trans own)
      rw [← token]
      exact registered
    refine rest (confirmEpisode_kept row _) moves (sound.owned.same moves ?_)
    unfold confirmEpisode
    split
    · rfl
    · split <;> rfl
  | refuse row status error now =>
    have moves : EpisodesMove (· ∈ system.registered) atRest system.supervisor.store
        (refuseEpisode row status error now system.supervisor.store) :=
      refuseEpisode_moves row status error now _
    refine rest (refuseEpisode_kept row status error now _) moves (sound.owned.same moves ?_)
    unfold refuseEpisode
    split
    · exact endEpisode_policies _ _ _ _
    · rfl
  | expire now =>
    have moves : EpisodesMove (· ∈ system.registered) atRest system.supervisor.store
        (expireDeliveries now system.supervisor.store) := expireDeliveries_moves now _
    exact rest (expireDeliveries_kept now _) moves (sound.owned.same moves rfl)
  | claim notificationId lease now claimed =>
    have taken : EpisodesMove (· ∈ system.registered) (only notificationId .delivery)
        system.supervisor.store _ ∧ _ := claimDelivery_moves claimed
    obtain ⟨moves, notice, stored, own⟩ := taken
    refine ⟨sound.kernel, sound.stalls, sound.remembers.keep (claimDelivery_kept claimed),
      sound.notices.moved moves, sound.owned.same moves (claimDelivery_policies claimed),
      sound.counted.moved sound.notices moves (fun name => ?_) fun name member => ?_⟩
    · unfold only
      by_cases same : name = notificationId
      · rw [if_pos same, same]
        exact Prod.ext count_cons_self rfl
      · rw [if_neg same]
        exact Prod.ext (count_cons_of_ne (Ne.symm same)) rfl
    · rcases mem_cons.mp member with rfl | old
      · exact .inr ⟨notice, stored, own⟩
      · exact .inl old
  | settle notificationId leaseId error now nextAttemptAt =>
    have moves : EpisodesMove (· ∈ system.registered) atRest system.supervisor.store
        (settleDelivery notificationId leaseId error now nextAttemptAt system.supervisor.store) :=
      settleDelivery_moves notificationId leaseId error now nextAttemptAt _
    refine rest (settleDelivery_kept notificationId leaseId error now nextAttemptAt _) moves
      (sound.owned.same moves ?_)
    unfold settleDelivery
    split
    · rfl
    · split <;> rfl
  | retry notificationId expectedRevision now accepted =>
    have moves : EpisodesMove (· ∈ system.registered) (only notificationId .reset)
        system.supervisor.store _ := retryDead_moves accepted
    refine ⟨sound.kernel, sound.stalls, sound.remembers.keep (retryDead_kept accepted),
      sound.notices.moved moves, sound.owned.same moves (retryDead_policies accepted),
      sound.counted.moved sound.notices moves (fun name => ?_) fun name member => Or.inl member⟩
    unfold only
    by_cases same : name = notificationId
    · rw [if_pos same, same]
      exact Prod.ext rfl count_cons_self
    · rw [if_neg same]
      exact Prod.ext rfl (count_cons_of_ne (Ne.symm same))

theorem StallSystem.Sound.stepped (sound : system.Sound) {kernel : KernelState}
    (step : StallKernelStep system.kernel kernel) : StallSystem.Sound { system with kernel } :=
  ⟨sound.kernel.next step.step, step.stallsReached sound.kernel sound.stalls, sound.remembers,
    sound.notices, sound.owned, sound.counted⟩

theorem StallSystem.registering_eq (system : StallSystem) (disposition : StallDisposition)
    (environment : Environment) :
    (system.registering disposition environment).supervisor = system.supervisor ∧
      (system.registering disposition environment).kernel =
        (registerDisposition disposition environment system.kernel).2 ∧
      ∀ old ∈ system.registered, old ∈ (system.registering disposition environment).registered := by
  unfold registering
  split
  · rename_i kernel outcome
    rw [outcome]
    exact ⟨rfl, rfl, fun old member => mem_cons_of_mem _ member⟩
  · rename_i kernel outcome
    rw [outcome]
    exact ⟨rfl, rfl, fun old member => member⟩

theorem StallStep.kernel (step : StallStep arithmetic system next) :
    next.kernel = system.kernel ∨ StallKernelStep system.kernel next.kernel := by
  cases step with
  | supervise step => exact .inl rfl
  | register disposition environment =>
    rw [(system.registering_eq disposition environment).2.1]
    exact (registerDisposition_step disposition environment system.kernel).symm
  | progress lease eventId environment =>
    exact .inr (confirmProgress_step lease eventId environment system.kernel)
  | policy executionId attempt fence policyVersion environment =>
    exact .inr (setStallPolicy_step executionId attempt fence policyVersion environment _)
  | clear expected environment => exact .inr (clearStallEpisode_step expected environment _)
  | elsewhere operation environment spares =>
    exact .inr ⟨⟨operation, environment, rfl⟩, Or.inl spares⟩

theorem StallStep.sound (step : StallStep arithmetic system next) (sound : system.Sound) :
    next.Sound := by
  have moved := step.kernel
  cases step with
  | supervise step => exact sound.supervised step
  | register disposition environment =>
    obtain ⟨supervisor, -, kept⟩ := system.registering_eq disposition environment
    have stepped : StallSystem.Sound
        { system with kernel := (system.registering disposition environment).kernel } := by
      rcases moved with same | step
      · rw [same]
        exact sound
      · exact sound.stepped step
    refine ⟨stepped.kernel, stepped.stalls, ?_, ?_, ?_, ?_⟩ <;> rw [supervisor]
    · exact sound.remembers
    · exact sound.notices.mono kept
    · exact sound.owned
    · exact sound.counted
  | progress lease eventId environment =>
    exact sound.stepped (confirmProgress_step lease eventId environment system.kernel)
  | policy executionId attempt fence policyVersion environment =>
    exact sound.stepped (setStallPolicy_step executionId attempt fence policyVersion environment _)
  | clear expected environment =>
    exact sound.stepped (clearStallEpisode_step expected environment _)
  | elsewhere operation environment spares =>
    exact sound.stepped ⟨⟨operation, environment, rfl⟩, Or.inl spares⟩

theorem stallSystem_sound (reachable : (stallSystem arithmetic).Reachable system) :
    system.Sound := by
  refine reachable.invariant StallSystem.Sound ?_ fun _ _ _ sound step => StallStep.sound step sound
  rintro _ ⟨storeId, rfl⟩
  refine ⟨.start ⟨storeId, rfl⟩, by rintro _ ⟨⟩, by rintro _ ⟨⟩, ⟨?_, ?_, ?_, ?_, ?_⟩, ⟨?_, ?_⟩,
    ⟨?_, ?_⟩⟩ <;> rintro _ ⟨⟩

/-- What an episode and a notification have left behind, they have left behind for good. -/
structure StallSystem.Settles (system last : StallSystem) : Prop where
  episodes : ∀ episode ∈ system.supervisor.store.episodes,
    ∃ later ∈ last.supervisor.store.episodes, later.episodeId = episode.episodeId ∧
      (later.state.open? = true → episode.state.open? = true)
  bridged : ∀ notice ∈ system.supervisor.store.outbox,
    ∃ later ∈ last.supervisor.store.outbox, later.notificationId = notice.notificationId ∧
      (notice.state = .bridged → later.state = .bridged)
  overtaken : ∀ disposition : StallDisposition, disposition.Overtaken system.kernel.database →
    disposition.Overtaken last.kernel.database

theorem StallSystem.Settles.refl (system : StallSystem) : system.Settles system :=
  ⟨fun episode member => ⟨episode, member, rfl, id⟩,
    fun notice member => ⟨notice, member, rfl, id⟩, fun _ overtaken => overtaken⟩

theorem StallSystem.Settles.trans {first second third : StallSystem}
    (before : first.Settles second) (after : second.Settles third) : first.Settles third := by
  refine ⟨fun episode member => ?_, fun notice member => ?_, fun disposition overtaken =>
    after.overtaken disposition (before.overtaken disposition overtaken)⟩
  · obtain ⟨middle, between, same, opens⟩ := before.episodes episode member
    obtain ⟨later, present, further, still⟩ := after.episodes middle between
    exact ⟨later, present, further.trans same, opens ∘ still⟩
  · obtain ⟨middle, between, same, bridged⟩ := before.bridged notice member
    obtain ⟨later, present, further, still⟩ := after.bridged middle between
    exact ⟨later, present, further.trans same, still ∘ bridged⟩

theorem SupervisorStep.settles {answered : EpisodeRow → Prop} {state after : SupervisorState}
    (remembers : state.Remembers) (step : SupervisorStep arithmetic (fun _ _ => True) answered
      state after) :
    (∀ episode ∈ state.store.episodes, ∃ later ∈ after.store.episodes, episode.Moves later) ∧
      ∀ notice ∈ state.store.outbox, ∃ later ∈ after.store.outbox,
        later.notificationId = notice.notificationId ∧
          (notice.state = .bridged → later.state = .bridged) := by
  have moved : ∀ {spending : Identifier → Spending} {store : ObservationStore},
      EpisodesMove (fun _ => True) spending state.store store →
      (∀ episode ∈ state.store.episodes, ∃ later ∈ store.episodes, episode.Moves later) ∧
        ∀ notice ∈ state.store.outbox, ∃ later ∈ store.outbox,
          later.notificationId = notice.notificationId ∧
            (notice.state = .bridged → later.state = .bridged) := by
    intro spending store moves
    refine ⟨moves.forward, fun notice member => ?_⟩
    obtain ⟨later, present, moved⟩ := moves.sent notice member
    exact ⟨later, present, moved.notificationId, moved.bridged⟩
  cases step with
  | watch subscription previous authority maxPolicies now accepted =>
    exact moved (watch_moves accepted)
  | select row status =>
    have tables := selectPolicy_tables row status state.store
    have kept : EpisodesMove (fun _ => True) atRest state.store
        (selectPolicy row status state.store) := .of_same tables.1 tables.2
    exact moved kept
  | read row stored active =>
    have kept : EpisodesMove (fun _ => True) atRest state.store state.store := .of_same rfl rfl
    exact moved kept
  | evaluate row sampler reading drawn readBefore permitted committed =>
    obtain ⟨⟨current, found, sameRevision, -⟩, fresh, rfl⟩ := evaluate_eq_some committed
    have stored := remembers.stored readBefore found sameRevision
    rw [find?_key stored] at found
    cases found
    obtain ⟨episodes, outbox⟩ := commitAssessment_eq row reading
      (assess arithmetic sampler row reading) drawn state.store
    have moves : EpisodesMove (fun _ => True) atRest state.store
        (endedStore row reading (assess arithmetic sampler row reading) state.store) :=
      endedStore_moves row reading _ _
    cases begins : (assess arithmetic sampler row reading).begins with
    | false =>
      rw [begins] at episodes outbox
      have kept : EpisodesMove (fun _ => True) atRest state.store
          (commitAssessment row reading (assess arithmetic sampler row reading) drawn
            state.store) :=
        moves.trans (.of_same episodes outbox)
      exact moved kept
    | true =>
      rw [begins, if_pos rfl] at episodes outbox
      obtain ⟨earlier, sent⟩ := moved moves
      refine ⟨fun episode member => ?_, fun notice member => ?_⟩
      · obtain ⟨later, present, further⟩ := earlier episode member
        refine ⟨later, ?_, further⟩
        show later ∈ (commitAssessment row reading _ drawn state.store).episodes
        rw [episodes]
        exact mem_put_of_fresh _ (moves.episode_fresh (fresh begins).1) present
      · obtain ⟨later, present, further⟩ := sent notice member
        refine ⟨later, ?_, further⟩
        show later ∈ (commitAssessment row reading _ drawn state.store).outbox
        rw [outbox]
        exact mem_put_of_fresh _ (moves.notice_fresh (fresh begins).2.1) present
  | clear row => exact moved (clearEpisode_moves row state.store)
  | confirm row stored registered => exact moved (confirmEpisode_moves fun _ _ _ => trivial)
  | refuse row status error now => exact moved (refuseEpisode_moves row status error now _)
  | expire now => exact moved (expireDeliveries_moves now _)
  | claim notificationId lease now claimed => exact moved (claimDelivery_moves claimed).1
  | settle notificationId leaseId error now nextAttemptAt =>
    exact moved (settleDelivery_moves notificationId leaseId error now nextAttemptAt _)
  | retry notificationId expectedRevision now accepted => exact moved (retryDead_moves accepted)

theorem StallStep.settles (step : StallStep arithmetic system next) (sound : system.Sound) :
    system.Settles next := by
  have kernel : ∀ disposition : StallDisposition, disposition.Overtaken system.kernel.database →
      disposition.Overtaken next.kernel.database := by
    intro disposition overtaken
    rcases step.kernel with same | moved
    · rw [same]
      exact overtaken
    · exact moved.overtaken sound.stalls overtaken
  have same : next.supervisor = system.supervisor → system.Settles next := fun same =>
    ⟨fun episode member => ⟨episode, same ▸ member, rfl, id⟩,
      fun notice member => ⟨notice, same ▸ member, rfl, id⟩, kernel⟩
  cases step with
  | supervise step =>
    obtain ⟨episodes, notices⟩ := step.settles sound.remembers
    refine ⟨fun episode member => ?_, notices, kernel⟩
    obtain ⟨later, present, moved⟩ := episodes episode member
    exact ⟨later, present, moved.episodeId, moved.opens⟩
  | register disposition environment =>
    exact same (system.registering_eq disposition environment).1
  | progress lease eventId environment => exact same rfl
  | policy executionId attempt fence policyVersion environment => exact same rfl
  | clear expected environment => exact same rfl
  | elsewhere operation environment spares => exact same rfl

theorem stallSystem_settles {last : StallSystem}
    (reachable : (stallSystem arithmetic).Reachable system)
    (run : ReflTransGen (StallStep arithmetic) system last) : system.Settles last :=
  reachable.respects StallSystem.Settles StallSystem.Settles.refl
    (fun before after => before.trans after)
    (fun _ _ reached step => StallStep.settles step (stallSystem_sound reached)) run

end Runs

/-! ### Stall episodes are exact -/

/-- Episodes, notifications and dispositions are exact: what may be open, what may be delivered and
how often, and which dispositions the Kernel acts on. -/
structure StallSystem.Exact (arithmetic : FloatArithmetic) (system : StallSystem) : Prop where
  /-- An execution has one open episode at most. -/
  single : ∀ left ∈ system.supervisor.store.episodes,
    ∀ right ∈ system.supervisor.store.episodes, left.state.open? = true →
      right.state.open? = true → left.key.executionId = right.key.executionId → left = right
  /-- What may be delivered is about an episode that the Kernel has registered. -/
  answered : ∀ notice ∈ system.supervisor.store.outbox, notice.state.deliverable = true →
    notice.payload.disposition ∈ system.registered ∧
      ∃ episode ∈ system.supervisor.store.episodes, episode.episodeId = notice.episodeId ∧
        episode.disposition = notice.payload.disposition
  /-- What the Kernel registers is then the current stall. -/
  registers : ∀ disposition environment,
    (registerDisposition disposition environment system.kernel).1 = .ok () →
      disposition.Current (registerDisposition disposition environment system.kernel).2.database
  /-- A cancellation names the current stall, or it fails and stores nothing. -/
  cancels : ∀ executionId authority reason environment (disposition : StallDisposition),
    (executionId = disposition.executionId ∧ disposition.Current system.kernel.database) ∨
      ((∃ failure, (cancel executionId authority reason (some disposition) environment
          system.kernel).1 = .error failure) ∧
        (cancel executionId authority reason (some disposition) environment
          system.kernel).2.database = system.kernel.database)
  /-- An episode is cleared with the current stall, or not at all. -/
  clears : ∀ environment (disposition : StallDisposition),
    disposition.Current system.kernel.database ∨
      ((clearStallEpisode disposition environment system.kernel).1 ≠ .ok true ∧
        (clearStallEpisode disposition environment system.kernel).2.database =
          system.kernel.database)
  /-- New progress leaves no episode, and nothing that was current is current again. -/
  progress : ∀ (lease : ExecutionLease) eventId environment answer,
    (confirmProgress lease eventId environment system.kernel).1 = .ok answer →
      answer.new = true →
      (∃ supervision ∈ (confirmProgress lease eventId environment
          system.kernel).2.database.supervision.find? lease.executionId,
        supervision.attempt = lease.attempt ∧ supervision.fence = lease.fence ∧
          supervision.progressRevision = answer.progressRevision ∧
          supervision.episodeId = none) ∧
      ∀ disposition : StallDisposition, disposition.executionId = lease.executionId →
        disposition.Current system.kernel.database → ∀ last, ReflTransGen (StallStep arithmetic)
          { system with
            kernel := (confirmProgress lease eventId environment system.kernel).2 } last →
          ¬ disposition.Current last.kernel.database
  /-- No more deliveries are begun than allowed, for each time that somebody asks for them. -/
  bounded : ∀ notice ∈ system.supervisor.store.outbox,
    notice.maxAttempts = notice.payload.maxDeliveries ∧ notice.attempts ≤ notice.maxAttempts ∧
      system.supervisor.deliveries.count notice.notificationId ≤
        notice.maxAttempts * (system.supervisor.retries.count notice.notificationId + 1)

section Exactness

variable {arithmetic : FloatArithmetic} {system last : StallSystem}

theorem stallSystem_exact (reachable : (stallSystem arithmetic).Reachable system) :
    system.Exact arithmetic := by
  have sound := stallSystem_sound reachable
  refine ⟨fun left leftStored right rightStored leftOpen rightOpen same =>
      sound.owned.unique leftStored rightStored leftOpen rightOpen same,
    fun notice member delivers => ⟨sound.notices.answered notice member delivers,
      sound.notices.owners notice member⟩,
    fun disposition environment registered => registerDisposition_current registered,
    fun executionId authority reason environment disposition => ?_,
    fun environment disposition => ?_,
    fun lease eventId environment answer confirmed new => ⟨?_, ?_⟩, fun notice member => ?_⟩
  · by_cases current : executionId = disposition.executionId ∧
        disposition.Current system.kernel.database
    · exact .inl current
    · exact .inr (cancel_refused current)
  · by_cases current : disposition.Current system.kernel.database
    · exact .inl current
    · exact .inr (clear_refused current)
  · obtain ⟨supervision, found, attempt, fence, progress, cleared, -⟩ :=
      confirmProgress_answers confirmed new
    exact ⟨supervision, found, attempt, fence, progress, cleared⟩
  · intro disposition own current last run
    have overtaken := confirmProgress_overtakes confirmed new own current
    have stepped : (stallSystem arithmetic).Reachable
        { system with kernel := (confirmProgress lease eventId environment system.kernel).2 } :=
      reachable.next (.progress lease eventId environment)
    exact ((stallSystem_settles stepped run).overtaken disposition overtaken).not_current
  · have counted := sound.counted.counted notice member
    have begun := (sound.notices.bounded notice member).begun
    refine ⟨sound.notices.allowance notice member, begun, ?_⟩
    rw [Nat.mul_add, Nat.mul_one]
    omega

/-- However supervisors and the Kernel are interleaved, stall episodes are exact, and what is
settled is not taken back. -/
theorem stall_episodes_exact (reachable : (stallSystem arithmetic).Reachable system)
    (run : ReflTransGen (StallStep arithmetic) system last) :
    system.Exact arithmetic ∧ system.Settles last :=
  ⟨stallSystem_exact reachable, stallSystem_settles reachable run⟩

def sampleRunning : KernelState :=
  (KernelState.initial sampleName).after (samplePerforming.take 3)

def sampleStall : StallDisposition := ⟨sampleName, 1, 1, 0, some sampleName, some sampleName⟩

theorem sampleRunning_reachable (arithmetic : FloatArithmetic) :
    (stallSystem arithmetic).Reachable ⟨.empty, sampleRunning, []⟩ := by
  -- Nothing is known about stalls before the execution runs.
  have spares : ∀ {before after : Database}, before.supervision.rows.isEmpty = true →
      after.supervision.rows.isEmpty = true → after.supervision = before.supervision :=
    fun none still => Table.ext ((isEmpty_iff.mp still).trans (isEmpty_iff.mp none).symm)
  have start : (stallSystem arithmetic).Reachable ⟨.empty, .initial sampleName, []⟩ :=
    .start ⟨sampleName, rfl⟩
  have submitted := start.next (.elsewhere (.enrol (.submit sampleCommand)) (sampleEnvironment 0) rfl)
  have claimed := submitted.next (.elsewhere
    (.work (.claim ⟨sampleName, none, none, none, none, none⟩)) (sampleEnvironment 0)
    (spares (by decide +kernel) (by decide +kernel)))
  exact claimed.next (.elsewhere (.work (.start (sampleLease 2 (by decide)))) (sampleEnvironment 0)
    (spares (by decide +kernel) (by decide +kernel)))

/-- The Kernel registers the stall of a running command. -/
theorem stall_episodes_exact_sample :
    (registerDisposition sampleStall (sampleEnvironment 0) sampleRunning).1.isOk = true ∧
      StallSystem.Exact .exact ⟨.empty, sampleRunning, []⟩ ∧
      StallSystem.Settles ⟨.empty, sampleRunning, []⟩
        (StallSystem.registering ⟨.empty, sampleRunning, []⟩ sampleStall (sampleEnvironment 0)) :=
  ⟨by decide +kernel, stall_episodes_exact (sampleRunning_reachable .exact)
    (.single (.register sampleStall (sampleEnvironment 0)))⟩

end Exactness

end DispatcherSdk.Observability
