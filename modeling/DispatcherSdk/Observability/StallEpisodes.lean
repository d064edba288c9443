/-
This file proves what becomes of stall episodes and of their notifications in the journal.

An episode that is open belongs to the one active policy of its execution, whose row names it.
It leaves the open states once and for all. Its notification waits until the Kernel has answered
for the episode, and is taken for delivery as often as the policy allows.
-/

import DispatcherSdk.Observability.StallWindowRuns

namespace DispatcherSdk.Observability

open ExecutionKernel Library Library.Checked Table List Bool

/-! ### Moves of episodes and notifications -/

/-- An episode keeps what it is about, and does not become open again. -/
structure EpisodeRow.Moves (episode later : EpisodeRow) : Prop where
  episodeId : later.episodeId = episode.episodeId
  key : later.key = episode.key
  disposition : later.disposition = episode.disposition
  opens : later.state.open? = true → episode.state.open? = true

theorem EpisodeRow.Moves.refl (episode : EpisodeRow) : episode.Moves episode :=
  ⟨rfl, rfl, rfl, id⟩

theorem EpisodeRow.Moves.trans {first second third : EpisodeRow} (before : first.Moves second)
    (after : second.Moves third) : first.Moves third :=
  ⟨after.episodeId.trans before.episodeId, after.key.trans before.key,
    after.disposition.trans before.disposition, before.opens ∘ after.opens⟩

/-- The notification may be delivered, or has been. -/
def NoticeState.deliverable : NoticeState → Bool
  | pending | delivering | bridged | dead => true
  | awaitingAuthority | superseded => false

/-- No more deliveries were begun than are allowed, and one that waits to be delivered has one
left. -/
structure NoticeRow.Bounded (notice : NoticeRow) : Prop where
  allowed : 1 ≤ notice.maxAttempts
  begun : notice.attempts ≤ notice.maxAttempts
  waits : notice.state = .pending ∨ notice.state = .awaitingAuthority →
    notice.attempts < notice.maxAttempts

/-- What becomes of the number of deliveries that were begun. -/
inductive Spending where
  | nothing
  | delivery
  | reset

def Spending.spend : Spending → ℕ → ℕ
  | nothing, attempts => attempts
  | delivery, attempts => attempts + 1
  | reset, _ => 0

/-- Nothing is delivered, and nothing is asked for again. -/
def atRest (_ : Identifier) : Spending := .nothing

/-- One notification is delivered or asked for again. -/
def only (notificationId : Identifier) (spending : Spending) (name : Identifier) : Spending :=
  if name = notificationId then spending else .nothing

/-- A notification keeps what it is about, waits for the Kernel, and stays delivered. -/
structure NoticeRow.Moves (registered : StallDisposition → Prop)
    (spending : Identifier → Spending) (notice later : NoticeRow) : Prop where
  notificationId : later.notificationId = notice.notificationId
  episodeId : later.episodeId = notice.episodeId
  payload : later.payload = notice.payload
  maxAttempts : later.maxAttempts = notice.maxAttempts
  attempts : later.attempts = (spending notice.notificationId).spend notice.attempts
  deliverable : later.state.deliverable = true →
    notice.state.deliverable = true ∨ registered notice.payload.disposition
  bridged : notice.state = .bridged → later.state = .bridged
  bounded : notice.Bounded → later.Bounded

section Moves

variable {registered : StallDisposition → Prop} {notice : NoticeRow}

variable {spending : Identifier → Spending}

theorem NoticeRow.Moves.refl (registered : StallDisposition → Prop)
    (idle : spending notice.notificationId = .nothing) : notice.Moves registered spending notice :=
  ⟨rfl, rfl, rfl, rfl, by rw [idle]; rfl, Or.inl, id, id⟩

theorem NoticeRow.Moves.trans {first second third : NoticeRow}
    (before : first.Moves registered atRest second)
    (after : second.Moves registered spending third) : first.Moves registered spending third := by
  refine ⟨after.notificationId.trans before.notificationId,
    after.episodeId.trans before.episodeId, after.payload.trans before.payload,
    after.maxAttempts.trans before.maxAttempts, ?_, fun delivers => ?_,
    after.bridged ∘ before.bridged, after.bounded ∘ before.bounded⟩
  · rw [after.attempts, before.notificationId, before.attempts]
    rfl
  rcases after.deliverable delivers with earlier | answered
  · exact before.deliverable earlier
  · rw [before.payload] at answered
    exact .inr answered

theorem NoticeRow.supersede_moves (notice : NoticeRow) :
    notice.Moves registered atRest notice.supersede := by
  unfold NoticeRow.supersede
  split
  · exact .refl registered rfl
  · rename_i open_
    exact ⟨rfl, rfl, rfl, rfl, rfl, by rintro ⟨⟩, fun bridged => absurd (.inl bridged) open_,
      fun bounded => ⟨bounded.allowed, bounded.begun, by rintro (⟨⟨⟩⟩ | ⟨⟨⟩⟩)⟩⟩

theorem NoticeRow.expire_moves (now : Timestamp) (notice : NoticeRow) :
    notice.Moves registered atRest (notice.expire now) := by
  unfold NoticeRow.expire
  split
  · rename_i delivering
    refine ⟨rfl, rfl, rfl, rfl, rfl, fun _ => Or.inl (by rw [delivering.1]; rfl), fun bridged => ?_,
      fun bounded => ⟨bounded.allowed, bounded.begun, fun pending => ?_⟩⟩
    · rw [delivering.1] at bridged
      cases bridged
    · dsimp only at pending ⊢
      split at pending
      · rcases pending with ⟨⟨⟩⟩ | ⟨⟨⟩⟩
      · omega
  · exact .refl registered rfl

theorem NoticeRow.claimed_moves {now : Timestamp} {lease : DeliveryLease}
    (due : notice.due now = true) : notice.Moves registered (only notice.notificationId .delivery)
      (notice.claimed lease) := by
  simp only [NoticeRow.due, and_eq_true, decide_eq_true_eq] at due
  refine ⟨rfl, rfl, rfl, rfl, by rw [only, if_pos rfl]; rfl,
    fun _ => Or.inl (by rw [due.1]; rfl), fun bridged => ?_,
    fun bounded => ⟨bounded.allowed, bounded.waits (.inl due.1), by rintro (⟨⟨⟩⟩ | ⟨⟨⟩⟩)⟩⟩
  rw [due.1] at bridged
  cases bridged

theorem NoticeRow.settled_moves (now nextAttemptAt : Timestamp) (error : Option String)
    (delivering : notice.state = .delivering) :
    notice.Moves registered atRest (notice.settled now nextAttemptAt error) := by
  refine ⟨rfl, rfl, rfl, rfl, rfl, fun _ => Or.inl (by rw [delivering]; rfl), fun bridged => ?_,
    fun bounded => ⟨bounded.allowed, bounded.begun, fun pending => ?_⟩⟩
  · cases delivering.symm.trans bridged
  · unfold NoticeRow.settled at pending ⊢
    dsimp only at pending ⊢
    split at pending
    · rcases pending with ⟨⟨⟩⟩ | ⟨⟨⟩⟩
    split at pending
    · rcases pending with ⟨⟨⟩⟩ | ⟨⟨⟩⟩
    · omega

end Moves

/-! ### Moves of the journal -/

/-- Every episode and every notification has moved, and there are no new ones. -/
structure EpisodesMove (registered : StallDisposition → Prop)
    (spending : Identifier → Spending) (before after : ObservationStore) : Prop where
  forward : ∀ episode ∈ before.episodes, ∃ later ∈ after.episodes, episode.Moves later
  backward : ∀ later ∈ after.episodes, ∃ episode ∈ before.episodes, episode.Moves later
  sent : ∀ notice ∈ before.outbox, ∃ later ∈ after.outbox, notice.Moves registered spending later
  kept : ∀ later ∈ after.outbox, ∃ notice ∈ before.outbox, notice.Moves registered spending later

namespace EpisodesMove

variable {registered : StallDisposition → Prop} {spending : Identifier → Spending}
  {before after last : ObservationStore}

theorem trans (first : EpisodesMove registered atRest before after)
    (second : EpisodesMove registered spending after last) :
    EpisodesMove registered spending before last := by
  refine ⟨fun episode member => ?_, fun later member => ?_, fun notice member => ?_,
    fun later member => ?_⟩
  · obtain ⟨middle, between, moved⟩ := first.forward episode member
    obtain ⟨later, present, further⟩ := second.forward middle between
    exact ⟨later, present, moved.trans further⟩
  · obtain ⟨middle, between, moved⟩ := second.backward later member
    obtain ⟨episode, present, further⟩ := first.backward middle between
    exact ⟨episode, present, further.trans moved⟩
  · obtain ⟨middle, between, moved⟩ := first.sent notice member
    obtain ⟨later, present, further⟩ := second.sent middle between
    exact ⟨later, present, moved.trans further⟩
  · obtain ⟨middle, between, moved⟩ := second.kept later member
    obtain ⟨notice, present, further⟩ := first.kept middle between
    exact ⟨notice, present, further.trans moved⟩

theorem of_same (episodes : after.episodes = before.episodes)
    (outbox : after.outbox = before.outbox) : EpisodesMove registered atRest before after := by
  refine ⟨fun episode member => ⟨episode, episodes ▸ member, .refl episode⟩,
    fun later member => ⟨later, episodes ▸ member, .refl later⟩,
    fun notice member => ⟨notice, outbox ▸ member, .refl registered rfl⟩,
    fun later member => ⟨later, outbox ▸ member, .refl registered rfl⟩⟩

theorem of_put {current : EpisodeRow} (row : EpisodeRow) (change : NoticeRow → NoticeRow)
    (stored : current ∈ before.episodes) (moved : current.Moves row)
    (episodes : after.episodes = before.episodes.put row)
    (outbox : after.outbox.rows = before.outbox.rows.map change)
    (changed : ∀ notice ∈ before.outbox, notice.Moves registered atRest (change notice)) :
    EpisodesMove registered atRest before after := by
  refine ⟨fun episode member => ?_, fun later member => ?_, fun notice member => ?_,
    fun later member => ?_⟩
  · rw [episodes]
    by_cases same : episode.episodeId = row.episodeId
    · cases eq_of_key_eq member stored (same.trans moved.episodeId)
      exact ⟨row, mem_put.mpr (.inl rfl), moved⟩
    · exact ⟨episode, mem_put.mpr (.inr ⟨member, same⟩), .refl episode⟩
  · rw [episodes] at member
    rcases mem_put.mp member with rfl | ⟨old, -⟩
    · exact ⟨current, stored, moved⟩
    · exact ⟨later, old, .refl later⟩
  · refine ⟨change notice, ?_, changed notice member⟩
    rw [mem_rows, outbox]
    exact mem_map_of_mem member
  · rw [mem_rows, outbox] at member
    obtain ⟨notice, old, rfl⟩ := mem_map.mp member
    exact ⟨notice, old, changed notice old⟩

theorem of_notice {current : NoticeRow} (row : NoticeRow) (stored : current ∈ before.outbox)
    (moved : current.Moves registered spending row)
    (others : ∀ name, name ≠ row.notificationId → spending name = .nothing)
    (episodes : after.episodes = before.episodes) (outbox : after.outbox = before.outbox.put row) :
    EpisodesMove registered spending before after := by
  refine ⟨fun episode member => ⟨episode, episodes ▸ member, .refl episode⟩,
    fun later member => ⟨later, episodes ▸ member, .refl later⟩, fun notice member => ?_,
    fun later member => ?_⟩
  · rw [outbox]
    by_cases same : notice.notificationId = row.notificationId
    · cases eq_of_key_eq member stored (same.trans moved.notificationId)
      exact ⟨row, mem_put.mpr (.inl rfl), moved⟩
    · exact ⟨notice, mem_put.mpr (.inr ⟨member, same⟩), .refl registered (others _ same)⟩
  · rw [outbox] at member
    rcases mem_put.mp member with rfl | ⟨old, differs⟩
    · exact ⟨current, stored, moved⟩
    · exact ⟨later, old, .refl registered (others _ differs)⟩

variable {name : Identifier}

theorem episode_fresh (moves : EpisodesMove registered spending before after)
    (fresh : before.episodes.find? name = none) : after.episodes.find? name = none := by
  refine find?_eq_none_iff.mpr fun later member => ?_
  obtain ⟨episode, old, moved⟩ := moves.backward later member
  rw [moved.episodeId]
  exact find?_eq_none_iff.mp fresh episode old

theorem notice_fresh (moves : EpisodesMove registered spending before after)
    (fresh : before.outbox.find? name = none) : after.outbox.find? name = none := by
  refine find?_eq_none_iff.mpr fun later member => ?_
  obtain ⟨notice, old, moved⟩ := moves.kept later member
  rw [moved.notificationId]
  exact find?_eq_none_iff.mp fresh notice old

end EpisodesMove

section Transactions

variable {registered : StallDisposition → Prop}

theorem endEpisode_moves (episode : Option Identifier) (now : Timestamp) (how : EpisodeEnd)
    (store : ObservationStore) :
    EpisodesMove registered atRest store (endEpisode episode now how store) := by
  unfold endEpisode
  split
  · exact .of_same rfl rfl
  · rename_i row found
    obtain ⟨name, -, stored⟩ := Option.bind_eq_some_iff.mp found
    split
    · refine .of_put { row with state := .ending, endedAt := some now, endState := some how }
        (fun notice => if notice.episodeId = row.episodeId then notice.supersede else notice)
        (mem_of_find? stored) ⟨rfl, rfl, rfl, by rintro ⟨⟩⟩ rfl rfl fun notice _ => ?_
      split
      · exact notice.supersede_moves
      · exact .refl registered rfl
    · exact .of_same rfl rfl

variable {now : Timestamp} {store : ObservationStore}

theorem endEpisode_closes {episode : Identifier} {how : EpisodeEnd}
    {later : EpisodeRow} (member : later ∈ (endEpisode (some episode) now how store).episodes)
    (same : later.episodeId = episode) : later.state.open? = false := by
  have closed : ∀ state : EpisodeState, state.unended = false → state.open? = false := by
    rintro (_ | _ | _ | _) unended <;> first | rfl | cases unended
  unfold endEpisode at member
  split at member
  · rename_i missing
    exact absurd same (find?_eq_none_iff.mp missing later member)
  · rename_i row found
    split at member
    · rcases mem_put.mp member with rfl | ⟨-, differs⟩
      · rfl
      · exact absurd (same.trans (key_of_find? found).symm) differs
    · rename_i ended
      have twin := eq_of_key_eq member (mem_of_find? found) (same.trans (key_of_find? found).symm)
      rw [twin]
      exact closed _ (eq_false_iff.mpr ended)

variable {after : ObservationStore}

theorem watch_moves {subscription : Subscription} {previous : Option PolicyRow} {authority : SupervisionStatus} {maxPolicies : ℕ} {replayed : Bool}
    (accepted : watch subscription previous authority maxPolicies now store =
      .ok (replayed, after)) : EpisodesMove registered atRest store after := by
  unfold watch at accepted
  split at accepted
  · split at accepted <;> cases accepted
    exact .of_same rfl rfl
  split at accepted
  · cases accepted
  split at accepted
  · split at accepted <;> cases accepted
    exact .of_same rfl rfl
  split at accepted
  · cases accepted
  cases accepted
  let ended : EpisodeRow → EpisodeRow := fun row =>
    if row.key.executionId = subscription.identity.executionId ∧ row.state.open? then
      { row with state := .ended .superseded, endedAt := some now }
    else row
  have endedMoves : ∀ row : EpisodeRow, row.Moves (ended row) := by
    intro row
    show row.Moves (if _ then _ else _)
    split
    · exact ⟨rfl, rfl, rfl, by rintro ⟨⟩⟩
    · exact .refl row
  refine ⟨fun episode member => ⟨ended episode, ?_, endedMoves episode⟩, fun later member => ?_,
    fun notice member => ?_, fun later member => ?_⟩
  · exact mem_rows.mpr (mem_map.mpr ⟨episode, member, rfl⟩)
  · obtain ⟨episode, old, rfl⟩ := mem_map.mp (mem_rows.mp member)
    exact ⟨episode, old, endedMoves episode⟩
  · refine ⟨_, mem_rows.mpr (mem_map.mpr ⟨notice, member, rfl⟩), ?_⟩
    split
    · exact notice.supersede_moves
    · exact .refl registered rfl
  · obtain ⟨notice, old, rfl⟩ := mem_map.mp (mem_rows.mp member)
    refine ⟨notice, old, ?_⟩
    split
    · exact notice.supersede_moves
    · exact .refl registered rfl

theorem selectPolicy_tables (row : PolicyRow) (status : SupervisionStatus)
    (store : ObservationStore) :
    (selectPolicy row status store).episodes = store.episodes ∧
      (selectPolicy row status store).outbox = store.outbox := by
  unfold selectPolicy
  split
  · exact ⟨rfl, rfl⟩
  split
  · exact ⟨rfl, rfl⟩
  · exact ⟨rfl, rfl⟩
  · exact ⟨rfl, rfl⟩
  · dsimp only
    split <;> exact ⟨rfl, rfl⟩

theorem clearEpisode_moves (row : EpisodeRow) (store : ObservationStore) :
    EpisodesMove registered atRest store (clearEpisode row store) := by
  unfold clearEpisode
  split
  · rename_i current how found _
    split
    · exact .of_put { current with state := .ended how } id (mem_of_find? found)
        ⟨rfl, rfl, rfl, by rintro ⟨⟩⟩ rfl (map_id _).symm fun notice _ => .refl registered rfl
    · exact .of_same rfl rfl
  · exact .of_same rfl rfl

theorem confirmEpisode_moves {row : EpisodeRow}
    (answered : ∀ notice ∈ store.outbox, notice.episodeId = row.episodeId →
      registered notice.payload.disposition) :
    EpisodesMove registered atRest store (confirmEpisode row store) := by
  unfold confirmEpisode
  split
  · exact .of_same rfl rfl
  · rename_i current found
    split
    · rename_i registering
      refine .of_put { current with state := .active }
        (fun notice =>
          if notice.episodeId = row.episodeId ∧ notice.state = .awaitingAuthority then
            { notice with state := .pending, lastError := none, revision := notice.revision + 1 }
          else notice)
        (mem_of_find? found) ⟨rfl, rfl, rfl, fun _ => by rw [registering]; rfl⟩ rfl rfl
        fun notice member => ?_
      split
      · rename_i own
        refine ⟨rfl, rfl, rfl, rfl, rfl, fun _ => Or.inr (answered notice member own.1), fun bridged => ?_,
          fun bounded => ?_⟩
        · rw [own.2] at bridged
          cases bridged
        · exact ⟨bounded.allowed, bounded.begun, fun _ => bounded.waits (.inr own.2)⟩
      · exact .refl registered rfl
    · exact .of_same rfl rfl

theorem refuseEpisode_moves (row : EpisodeRow) (status : SupervisionStatus) (error : String)
    (now : Timestamp) (store : ObservationStore) :
    EpisodesMove registered atRest store (refuseEpisode row status error now store) := by
  unfold refuseEpisode
  split
  · exact endEpisode_moves _ _ _ _
  · let noted : NoticeRow → NoticeRow := fun notice =>
      if notice.episodeId = row.episodeId then { notice with lastError := some error } else notice
    have notedMoves : ∀ notice : NoticeRow, notice.Moves registered atRest (noted notice) := by
      intro notice
      show notice.Moves registered atRest (if _ then _ else _)
      split
      · exact ⟨rfl, rfl, rfl, rfl, rfl, Or.inl, id, fun bounded =>
          ⟨bounded.allowed, bounded.begun, bounded.waits⟩⟩
      · exact .refl registered rfl
    refine ⟨fun episode member => ⟨episode, member, .refl episode⟩,
      fun later member => ⟨later, member, .refl later⟩,
      fun notice member => ⟨noted notice, ?_, notedMoves notice⟩, fun later member => ?_⟩
    · exact mem_rows.mpr (mem_map.mpr ⟨notice, member, rfl⟩)
    · obtain ⟨notice, old, rfl⟩ := mem_map.mp (mem_rows.mp member)
      exact ⟨notice, old, notedMoves notice⟩

theorem expireDeliveries_moves (now : Timestamp) (store : ObservationStore) :
    EpisodesMove registered atRest store (expireDeliveries now store) := by
  refine ⟨fun episode member => ⟨episode, member, .refl episode⟩,
    fun later member => ⟨later, member, .refl later⟩,
    fun notice member => ⟨notice.expire now, ?_, notice.expire_moves now⟩, fun later member => ?_⟩
  · exact mem_rows.mpr (mem_map.mpr ⟨notice, member, rfl⟩)
  · obtain ⟨notice, old, rfl⟩ := mem_map.mp (mem_rows.mp member)
    exact ⟨notice, old, notice.expire_moves now⟩

theorem settleDelivery_moves (notificationId leaseId : Identifier) (error : Option String)
    (now nextAttemptAt : Timestamp) (store : ObservationStore) :
    EpisodesMove registered atRest store
      (settleDelivery notificationId leaseId error now nextAttemptAt store) := by
  unfold settleDelivery
  split
  · exact .of_same rfl rfl
  · rename_i notice found
    split
    · rename_i held
      exact .of_notice (notice.settled now nextAttemptAt error) (mem_of_find? found)
        (notice.settled_moves now nextAttemptAt error held.1) (fun _ _ => rfl) rfl rfl
    · exact .of_same rfl rfl

variable {notificationId : Identifier}

theorem claimDelivery_moves {lease : DeliveryLease}
    (claimed : claimDelivery notificationId lease now store = some after) :
    EpisodesMove registered (only notificationId .delivery) store after ∧
      ∃ notice ∈ after.outbox, notice.notificationId = notificationId := by
  unfold claimDelivery at claimed
  dsimp only at claimed
  split at claimed
  · cases claimed
  rename_i notice found
  split at claimed
  · rename_i chosen
    cases claimed
    have own : notice.notificationId = notificationId := key_of_find? found
    refine ⟨(expireDeliveries_moves now store).trans ?_, notice.claimed lease,
      mem_put.mpr (.inl rfl), own⟩
    refine .of_notice (notice.claimed lease) (mem_of_find? found) ?_ (fun name differs => ?_) rfl rfl
    · rw [← own]
      exact notice.claimed_moves chosen.1
    · rw [only, if_neg (fun same => differs (same.trans own.symm))]
  · cases claimed

theorem retryDead_moves {expectedRevision : ℕ}
    (accepted : retryDead notificationId expectedRevision now store = .ok after) :
    EpisodesMove registered (only notificationId .reset) store after := by
  simp only [retryDead, bind_eq_ok, present_eq_ok, check_eq_ok] at accepted
  obtain ⟨notice, found, _, dead, done⟩ := accepted
  cases done
  have own : notice.notificationId = notificationId := key_of_find? found
  refine .of_notice
    { notice with
      state := .pending
      attempts := 0
      nextAttemptAt := now
      lastError := none
      revision := notice.revision + 1 }
    (mem_of_find? found) ?_ (fun name differs => ?_) rfl rfl
  · refine ⟨rfl, rfl, rfl, rfl, by rw [own, only, if_pos rfl]; rfl,
      fun _ => Or.inl (by rw [dead.2]; rfl), fun bridged => ?_,
      fun bounded => ⟨bounded.allowed, Nat.zero_le _, fun _ => bounded.allowed⟩⟩
    rw [dead.2] at bridged
    cases bridged
  · rw [only, if_neg (fun same => differs (same.trans own.symm))]

end Transactions

/-! ### Notifications wait for the Kernel -/

/-- Every notification carries the disposition of its episode, and is delivered only within bounds
and after the Kernel has answered. -/
structure NoticesSound (registered : StallDisposition → Prop) (store : ObservationStore) : Prop where
  tokens : ∀ episode ∈ store.episodes, episode.disposition.episodeId = some episode.episodeId ∧
    episode.disposition.executionId = episode.key.executionId ∧
    episode.disposition.attempt = episode.key.attempt ∧
    episode.disposition.fence = episode.key.fence
  owners : ∀ notice ∈ store.outbox, ∃ episode ∈ store.episodes,
    episode.episodeId = notice.episodeId ∧ episode.disposition = notice.payload.disposition
  answered : ∀ notice ∈ store.outbox, notice.state.deliverable = true →
    registered notice.payload.disposition
  allowance : ∀ notice ∈ store.outbox, notice.maxAttempts = notice.payload.maxDeliveries
  bounded : ∀ notice ∈ store.outbox, notice.Bounded

variable {registered : StallDisposition → Prop}

theorem NoticesSound.moved {spending : Identifier → Spending} {before after : ObservationStore}
    (sound : NoticesSound registered before)
    (moves : EpisodesMove registered spending before after) : NoticesSound registered after := by
  refine ⟨fun later member => ?_, fun later member => ?_, fun later member delivers => ?_,
    fun later member => ?_, fun later member => ?_⟩
  · obtain ⟨episode, old, moved⟩ := moves.backward later member
    rw [moved.disposition, moved.episodeId, moved.key]
    exact sound.tokens episode old
  · obtain ⟨notice, old, moved⟩ := moves.kept later member
    obtain ⟨episode, stored, own, same⟩ := sound.owners notice old
    obtain ⟨next, present, further⟩ := moves.forward episode stored
    refine ⟨next, present, ?_, ?_⟩
    · rw [further.episodeId, own, moved.episodeId]
    · rw [further.disposition, same, moved.payload]
  · obtain ⟨notice, old, moved⟩ := moves.kept later member
    rw [moved.payload]
    rcases moved.deliverable delivers with earlier | answered
    · exact sound.answered notice old earlier
    · exact answered
  · obtain ⟨notice, old, moved⟩ := moves.kept later member
    rw [moved.maxAttempts, moved.payload]
    exact sound.allowance notice old
  · obtain ⟨notice, old, moved⟩ := moves.kept later member
    exact moved.bounded (sound.bounded notice old)

variable {store : ObservationStore}

theorem NoticesSound.begun
    (sound : NoticesSound registered store) (row : PolicyRow) (reading : Reading)
    (consecutive : ℕ) {drawn : DrawnIds} (fresh : store.episodes.find? drawn.episodeId = none) :
    NoticesSound registered (beginEpisode row reading consecutive drawn store) := by
  refine ⟨fun episode member => ?_, fun notice member => ?_, fun notice member delivers => ?_,
    fun notice member => ?_, fun notice member => ?_⟩
  · rcases mem_put.mp member with rfl | ⟨old, -⟩
    · exact ⟨rfl, rfl, rfl, rfl⟩
    · exact sound.tokens episode old
  · rcases mem_put.mp member with rfl | ⟨old, -⟩
    · exact ⟨_, mem_put.mpr (.inl rfl), rfl, rfl⟩
    · obtain ⟨episode, stored, own, same⟩ := sound.owners notice old
      exact ⟨episode, mem_put_of_fresh _ fresh stored, own, same⟩
  · rcases mem_put.mp member with rfl | ⟨old, -⟩
    · cases delivers
    · exact sound.answered notice old delivers
  · rcases mem_put.mp member with rfl | ⟨old, -⟩
    · rfl
    · exact sound.allowance notice old
  · rcases mem_put.mp member with rfl | ⟨old, -⟩
    · exact ⟨row.policy.deliveriesPositive, Nat.zero_le _, fun _ => row.policy.deliveriesPositive⟩
    · exact sound.bounded notice old

/-! ### What an evaluation does to episodes -/

/-- The journal after an evaluation has ended an episode, and before it begins one. -/
def endedStore (row : PolicyRow) (reading : Reading) (assessment : Assessment)
    (store : ObservationStore) : ObservationStore :=
  let recorded := recordWindow row assessment.window reading.status.progressRevision store
  match assessment.ends with
  | none => recorded
  | some how => endEpisode row.episodeId reading.sample.wallAt how recorded

theorem recordWindow_outbox (row : PolicyRow)
    (window : Option (Stamp × Stamp × WindowState × WindowDetails)) (endRevision : ℕ)
    (store : ObservationStore) :
    (recordWindow row window endRevision store).outbox = store.outbox := by
  unfold recordWindow
  split
  · rfl
  · split <;> rfl

theorem endedStore_moves (row : PolicyRow)
    (reading : Reading) (assessment : Assessment) (store : ObservationStore) :
    EpisodesMove registered atRest store (endedStore row reading assessment store) := by
  have recorded : EpisodesMove registered atRest store
      (recordWindow row assessment.window reading.status.progressRevision store) :=
    .of_same (recordWindow_policies _ _ _ _).2.1 (recordWindow_outbox _ _ _ _)
  unfold endedStore
  dsimp only
  split
  · exact recorded
  · exact recorded.trans (endEpisode_moves _ _ _ _)

theorem commitAssessment_eq (row : PolicyRow) (reading : Reading) (assessment : Assessment)
    (drawn : DrawnIds) (store : ObservationStore) :
    (commitAssessment row reading assessment drawn store).episodes =
        (if assessment.begins then beginEpisode row reading assessment.row.consecutive drawn
          (endedStore row reading assessment store)
        else endedStore row reading assessment store).episodes ∧
      (commitAssessment row reading assessment drawn store).outbox =
        (if assessment.begins then beginEpisode row reading assessment.row.consecutive drawn
          (endedStore row reading assessment store)
        else endedStore row reading assessment store).outbox :=
  ⟨rfl, rfl⟩

/-- An evaluation that begins an episode finds the row without one; it leaves an active row active
unless it ends its episode. -/
theorem assess_episode (arithmetic : FloatArithmetic) (sampler : Sampler) (row : PolicyRow)
    (reading : Reading) (active : row.state = .active) :
    ((assess arithmetic sampler row reading).begins = true →
      row.episodeId = none ∧ (assess arithmetic sampler row reading).ends = none) ∧
    ((assess arithmetic sampler row reading).ends = none →
      (assess arithmetic sampler row reading).row.state = .active) := by
  rcases assess_cases arithmetic sampler row reading with ⟨doubt, concluded⟩ |
    ⟨metrics, counts, concluded | ⟨same, ⟨free, concluded⟩ |
      ⟨baseline, previous, begun, seen, ⟨past, concluded⟩ | concluded⟩⟩⟩ <;> rw [concluded]
  · refine ⟨nofun, fun unended => ?_⟩
    show (if _ then _ else _ : PolicyState) = _
    have kept : interruptedEnd row reading (some doubt.reason) = none := unended
    unfold interruptedEnd at kept
    split at kept
    · cases kept
    split at kept
    · cases kept
    rename_i unchanged
    exact if_neg fun changed => unchanged (congrArg some changed)
  · exact ⟨nofun, fun _ => active⟩
  · exact ⟨nofun, fun _ => active⟩
  · unfold assessComplete
    dsimp only
    split
    · exact ⟨fun begins => ⟨(of_decide_eq_true begins).2, rfl⟩, fun _ => active⟩
    · exact ⟨nofun, nofun⟩
  · exact ⟨nofun, fun _ => active⟩

/-! ### Open episodes belong to the active policy -/

/-- A policy row that names an open episode. -/
def PolicyRow.Owns (row : PolicyRow) (episode : EpisodeRow) : Prop :=
  row.key = episode.key ∧ row.state = .active ∧ row.episodeId = some episode.episodeId

/-- An open episode is named by the active row of its policy, and an execution has one watched row
at most. -/
structure EpisodesOwned (store : ObservationStore) : Prop where
  owned : ∀ episode ∈ store.episodes, episode.state.open? = true →
    ∃ row ∈ store.policies, row.Owns episode
  alone : ∀ left ∈ store.policies, ∀ right ∈ store.policies, left.state.watched = true →
    right.state.watched = true → left.key.executionId = right.key.executionId → left = right

theorem EpisodesOwned.unique (owned : EpisodesOwned store) {left right : EpisodeRow}
    (leftStored : left ∈ store.episodes) (rightStored : right ∈ store.episodes)
    (leftOpen : left.state.open? = true) (rightOpen : right.state.open? = true)
    (same : left.key.executionId = right.key.executionId) : left = right := by
  obtain ⟨first, firstStored, firstKey, firstActive, firstNames⟩ :=
    owned.owned left leftStored leftOpen
  obtain ⟨second, secondStored, secondKey, secondActive, secondNames⟩ :=
    owned.owned right rightStored rightOpen
  have twin : first = second := by
    refine owned.alone first firstStored second secondStored ?_ ?_ ?_
    · rw [firstActive]
      rfl
    · rw [secondActive]
      rfl
    · rw [firstKey, secondKey]
      exact same
  rw [twin] at firstNames
  exact eq_of_key_eq leftStored rightStored (Option.some.inj (firstNames.symm.trans secondNames))

section Owners

variable {spending : Identifier → Spending} {before after : ObservationStore}

section

variable (owned : EpisodesOwned before)

include owned

theorem alone_of_image (image : PolicyRow → PolicyRow)
    (images : ∀ later ∈ after.policies, later.state.watched = true →
      ∃ row ∈ before.policies, row.state.watched = true ∧ image row = later ∧
        row.key.executionId = later.key.executionId) :
    ∀ left ∈ after.policies, ∀ right ∈ after.policies, left.state.watched = true →
      right.state.watched = true → left.key.executionId = right.key.executionId → left = right := by
  intro left leftStored right rightStored leftWatched rightWatched same
  obtain ⟨first, firstStored, firstWatched, rfl, firstKey⟩ := images left leftStored leftWatched
  obtain ⟨second, secondStored, secondWatched, rfl, secondKey⟩ :=
    images right rightStored rightWatched
  rw [owned.alone first firstStored second secondStored firstWatched secondWatched
    (firstKey.trans (same.trans secondKey.symm))]

theorem owned_of_moves (moves : EpisodesMove registered spending before after)
    (stays : ∀ row ∈ before.policies, ∀ later ∈ after.episodes, later.state.open? = true →
      row.Owns later → ∃ next ∈ after.policies, next.Owns later) :
    ∀ later ∈ after.episodes, later.state.open? = true → ∃ row ∈ after.policies, row.Owns later := by
  intro later member opens
  obtain ⟨episode, old, moved⟩ := moves.backward later member
  obtain ⟨row, stored, key, active, names⟩ := owned.owned episode old (moved.opens opens)
  refine stays row stored later member opens ⟨key.trans moved.key.symm, active, ?_⟩
  rw [moved.episodeId]
  exact names

theorem EpisodesOwned.same (moves : EpisodesMove registered spending before after)
    (policies : after.policies = before.policies) : EpisodesOwned after := by
  refine ⟨owned_of_moves owned moves fun row stored later _ _ owns => ?_, ?_⟩
  · exact ⟨row, policies ▸ stored, owns⟩
  · rw [policies]
    exact owned.alone

theorem EpisodesOwned.watched {subscription : Subscription} {previous : Option PolicyRow}
    {authority : SupervisionStatus} {maxPolicies : ℕ} {now : Timestamp} {replayed : Bool}
    (accepted : watch subscription previous authority maxPolicies now before =
      .ok (replayed, after)) : EpisodesOwned after := by
  have moves : EpisodesMove (fun _ => True) atRest before after := watch_moves accepted
  unfold watch at accepted
  split at accepted
  · split at accepted <;> cases accepted
    exact owned
  split at accepted
  · cases accepted
  split at accepted
  · split at accepted <;> cases accepted
    exact owned
  rename_i missing
  split at accepted
  · cases accepted
  cases accepted
  refine ⟨owned_of_moves owned moves fun row stored later member opens owns => ?_, ?_⟩
  · obtain ⟨episode, -, rfl⟩ := mem_map.mp (mem_rows.mp member)
    obtain ⟨key, active, names⟩ := owns
    -- An open episode of the execution would have been superseded.
    have foreign : row.key.executionId ≠ subscription.identity.executionId := by
      intro own
      rw [key] at own
      split at own <;> rename_i ended
      · rw [if_pos ended] at opens
        cases opens
      · rw [if_neg ended] at opens
        exact ended ⟨own, opens⟩
    refine ⟨row, mem_put.mpr (.inr ⟨?_, ?_⟩), key, active, names⟩
    · refine mem_rows.mpr (mem_map.mpr ⟨row, stored, ?_⟩)
      exact if_neg fun own => foreign own.1
    · exact find?_eq_none_iff.mp missing row stored
  · have old : ∀ later ∈ (supersedeWatched subscription.identity.executionId now before).policies,
        later.state.watched = true → later ∈ before.policies ∧
          later.key.executionId ≠ subscription.identity.executionId := by
      intro later member watched
      obtain ⟨row, stored, rfl⟩ := mem_map.mp (mem_rows.mp member)
      split at watched
      · cases watched
      · rename_i foreign
        rw [if_neg foreign]
        exact ⟨stored, fun own => foreign ⟨own, watched⟩⟩
    intro left leftStored right rightStored leftWatched rightWatched same
    rcases mem_put.mp leftStored with rfl | ⟨leftOld, -⟩
    · rcases mem_put.mp rightStored with rfl | ⟨rightOld, -⟩
      · rfl
      · exact absurd same.symm (old right rightOld rightWatched).2
    · rcases mem_put.mp rightStored with rfl | ⟨rightOld, -⟩
      · exact absurd same (old left leftOld leftWatched).2
      · exact owned.alone left (old left leftOld leftWatched).1 right
          (old right rightOld rightWatched).1 leftWatched rightWatched same

theorem EpisodesOwned.selected (row : PolicyRow) (status : SupervisionStatus) :
    EpisodesOwned (selectPolicy row status before) := by
  have tables := selectPolicy_tables row status before
  have moves : EpisodesMove (fun _ => True) atRest before (selectPolicy row status before) :=
    .of_same tables.1 tables.2
  unfold selectPolicy at moves ⊢
  split at moves
  · exact owned
  rename_i current found
  obtain ⟨stored, matched⟩ := Option.filter_eq_some_iff.mp found
  simp only [decide_and, and_eq_true, decide_eq_true_eq] at matched
  have inactive : current.state ≠ .active := by
    rcases matched.1 with state | state <;> rw [state] <;> nofun
  have watched : current.state.watched = true := by
    rcases matched.1 with state | state <;> rw [state] <;> rfl
  -- An active row is not the one that waits, so it stays.
  have differs : ∀ other ∈ before.policies, ∀ later, other.Owns later →
      other.key ≠ current.key := by
    intro other member later owns same
    rw [eq_of_key_eq member (mem_of_find? stored) same] at owns
    exact inactive owns.2.1
  have replaced : ∀ later : PolicyRow, later.key = current.key → later.state.watched = false →
      EpisodesMove (fun _ => True) atRest before
        { before with policies := before.policies.put later } →
      EpisodesOwned { before with policies := before.policies.put later } := by
    intro later key unwatched moves
    refine ⟨owned_of_moves owned moves fun other member next _ _ owns => ?_,
      alone_of_image owned id fun next member nextWatched => ?_⟩
    · exact ⟨other, mem_put.mpr (.inr ⟨member, key.symm ▸ differs other member next owns⟩), owns⟩
    · rcases mem_put.mp member with rfl | ⟨old, -⟩
      · cases unwatched.symm.trans nextWatched
      · exact ⟨next, old, nextWatched, rfl, rfl⟩
  split at moves
  · exact owned
  · exact replaced _ rfl rfl moves
  · exact replaced _ rfl rfl moves
  · dsimp only at moves ⊢
    split at moves
    · exact owned
    rename_i unused
    refine ⟨owned_of_moves owned moves fun other member next _ _ owns => ?_,
      alone_of_image owned (fun other => if other.key = current.key then
        { current with
          key := current.key.at status
          state := .active
          revision := current.revision + 1 } else other) fun next member nextWatched => ?_⟩
    · have kept : other ∈ before.policies.keep fun row => row.key ≠ current.key :=
        mem_keep.mpr ⟨member, decide_eq_true (differs other member next owns)⟩
      exact ⟨other, mem_put.mpr (.inr ⟨kept, find?_eq_none_iff.mp unused other kept⟩), owns⟩
    · rcases mem_put.mp member with rfl | ⟨old, -⟩
      · exact ⟨current, mem_of_find? stored, watched, if_pos rfl, rfl⟩
      · obtain ⟨old, apart⟩ := mem_keep.mp old
        exact ⟨next, old, nextWatched, if_neg (of_decide_eq_true apart), rfl⟩

theorem EpisodesOwned.cleared (row : EpisodeRow) : EpisodesOwned (clearEpisode row before) := by
  have moves : EpisodesMove (fun _ => True) atRest before (clearEpisode row before) :=
    clearEpisode_moves row before
  unfold clearEpisode at moves ⊢
  split at moves
  · rename_i current how found _
    split at moves
    · rename_i ending
      rw [if_pos ending]
      let released : PolicyRow → PolicyRow := fun policy =>
        if policy.episodeId = some row.episodeId then
          { policy with episodeId := none, revision := policy.revision + 1 }
        else policy
      refine ⟨owned_of_moves owned moves fun policy stored later member opens owns => ?_,
        alone_of_image owned released fun later member watched => ?_⟩
      · have other : policy.episodeId ≠ some row.episodeId := by
          rw [owns.2.2]
          intro same
          rcases mem_put.mp member with rfl | ⟨-, differs⟩
          · cases opens
          · exact differs ((Option.some.inj same).trans (key_of_find? found).symm)
        exact ⟨policy, mem_rows.mpr (mem_map.mpr ⟨policy, stored, if_neg other⟩), owns⟩
      · obtain ⟨policy, stored, rfl⟩ := mem_map.mp (mem_rows.mp member)
        have same : (released policy).state = policy.state ∧
            (released policy).key = policy.key := by
          show (if _ then _ else _ : PolicyRow).state = _ ∧ (if _ then _ else _ : PolicyRow).key = _
          split <;> exact ⟨rfl, rfl⟩
        refine ⟨policy, stored, ?_, rfl, congrArg PolicyKey.executionId same.2.symm⟩
        rw [← same.1]
        exact watched
    · rename_i unended
      rw [if_neg unended]
      exact owned
  · exact owned

theorem EpisodesOwned.evaluated {arithmetic : FloatArithmetic} {sampler : Sampler}
    {row : PolicyRow} {reading : Reading} {drawn : DrawnIds} (stored : row ∈ before.policies)
    (active : row.state = .active) :
    EpisodesOwned (commitAssessment row reading (assess arithmetic sampler row reading) drawn
      before) := by
  obtain ⟨begins, stays⟩ := assess_episode arithmetic sampler row reading active
  obtain ⟨key, -, -, -⟩ := assess_row arithmetic sampler row reading
  have policies := (commitAssessment_tables row reading (assess arithmetic sampler row reading)
    drawn before).1
  have moves : EpisodesMove (fun _ => True) atRest before
      (endedStore row reading (assess arithmetic sampler row reading) before) :=
    endedStore_moves row reading _ before
  have committedKey : (committedRow row (assess arithmetic sampler row reading) drawn).key =
      row.key := key
  refine ⟨fun later member opens => ?_, ?_⟩
  · -- An episode that was there before, and is still open.
    have old : later ∈ (endedStore row reading (assess arithmetic sampler row reading)
        before).episodes → ∃ next ∈ (commitAssessment row reading
          (assess arithmetic sampler row reading) drawn before).policies, next.Owns later := by
      intro present
      obtain ⟨episode, before_, moved⟩ := moves.backward later present
      obtain ⟨owner, ownerStored, ownerKey, ownerActive, names⟩ :=
        owned.owned episode before_ (moved.opens opens)
      rw [← moved.key] at ownerKey
      rw [← moved.episodeId] at names
      rw [policies]
      by_cases same : owner.key = row.key
      · cases eq_of_key_eq ownerStored stored same
        have unended : (assess arithmetic sampler row reading).ends = none := by
          cases ends : (assess arithmetic sampler row reading).ends with
          | none => rfl
          | some how =>
            unfold endedStore at present
            rw [ends, names] at present
            rw [endEpisode_closes present rfl] at opens
            cases opens
        have notBegun : (assess arithmetic sampler row reading).begins = false := by
          cases begun : (assess arithmetic sampler row reading).begins with
          | false => rfl
          | true =>
            rw [(begins begun).1] at names
            cases names
        refine ⟨_, mem_put.mpr (.inl rfl), committedKey.trans ownerKey, stays unended, ?_⟩
        show (if _ then _ else _) = _
        rw [notBegun]
        exact names
      · exact ⟨owner, mem_put.mpr (.inr ⟨ownerStored, committedKey.symm ▸ same⟩), ownerKey,
          ownerActive, names⟩
    rw [(commitAssessment_eq row reading _ drawn before).1] at member
    cases begun : (assess arithmetic sampler row reading).begins with
    | false =>
      rw [begun] at member
      exact old member
    | true =>
      rw [begun, if_pos rfl] at member
      rcases mem_put.mp member with rfl | ⟨present, -⟩
      · rw [policies]
        refine ⟨_, mem_put.mpr (.inl rfl), committedKey, stays (begins begun).2, ?_⟩
        show (if _ then _ else _) = _
        rw [begun]
        rfl
      · exact old present
  · refine alone_of_image owned (fun other => if other.key = row.key then
      committedRow row (assess arithmetic sampler row reading) drawn else other)
      fun later member watched => ?_
    rw [policies] at member
    rcases mem_put.mp member with rfl | ⟨present, differs⟩
    · exact ⟨row, stored, by rw [active]; rfl, if_pos rfl, by rw [committedKey]⟩
    · exact ⟨later, present, watched, if_neg (committedKey ▸ differs), rfl⟩

end

end Owners

end DispatcherSdk.Observability
