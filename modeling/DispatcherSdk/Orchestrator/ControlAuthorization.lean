/-
This file models the ledger of delegated control authority.

A call asks the host's verifier who calls and commits the time that it observes, in a
transaction of its own, as the latest of all times observed so far.

A delegation holds for its own Run, action and principal only. Once it is revoked, or once
a time at or past its expiry has been observed, it does not hold again.
-/

import DispatcherSdk.Library.Transition
import DispatcherSdk.Orchestrator.Reducer
import Mathlib.Algebra.Order.Ring.Rat

namespace DispatcherSdk.Orchestrator

open Library Library.Checked Table Relation
open ExecutionKernel (Identifier blank)

/-! ### The ledger -/

/-- What `verify` answers: who calls, and the Runs and actions it is permitted. -/
structure Verified where
  principal : Identifier
  permissions : List (Identifier × Identifier)

/-- A row of `sdk_control_delegations`. -/
structure Delegation where
  delegationId : Identifier
  runId : Identifier
  action : Identifier
  principal : Identifier
  grantedBy : Identifier
  expiresAt : ℚ
  revokedAt : Option ℚ
  revokedBy : Option Identifier
  createdAt : ℚ

structure AuthorityStore where
  delegations : Table Delegation.delegationId
  /-- The row of `sdk_control_authority_clock`. -/
  observedAt : Option ℚ

/-- What a verification meets: the judged answer, a sample of the clock, and what becomes of the
transaction that commits it. -/
structure Host where
  answer : Except SdkError Verified
  clock : Except SdkError ℚ
  fault : StorageFault

structure GrantRequest where
  delegationId : Identifier
  runId : Identifier
  action : Identifier
  principal : Identifier
  expiresAt : ℚ

/-- An action behind `delegate:` or `revoke:`. -/
def marked (mark : String) (action : Identifier) : Identifier where
  text := mark ++ action.text
  filled := by
    have filled : action.text.toList.all ExecutionKernel.isPythonSpace = false := action.filled
    simp [blank, String.toList_append, filled]

/-- What is left of a transaction: its answer and the store. -/
def StorageFault.settle {Answer : Type} (fault : StorageFault)
    (outcome : Except SdkError (Answer × AuthorityStore)) (before : AuthorityStore) :
    Except SdkError Answer × AuthorityStore :=
  match outcome, fault with
  | .error failure, _ => (.error failure, before)
  | .ok _, .lost failure => (.error failure, before)
  | .ok (_, after), .unacknowledged failure => (.error failure, after)
  | .ok (answer, after), .none => (.ok answer, after)

namespace AuthorityStore

variable (store : AuthorityStore)

def observe (sample : ℚ) : AuthorityStore :=
  { store with observedAt := some (store.observedAt.elim sample (max · sample)) }

def verify (host : Host) : Except SdkError Verified × AuthorityStore :=
  host.fault.settle (do
    let verified ← host.answer
    let sample ← host.clock
    return (verified, store.observe sample)) store

/-- `_observed_time`. -/
def observedTime : Except SdkError ℚ :=
  present store.observedAt (.orchestration "control authority clock is unknown")

def delegationRefused : SdkError :=
  .orchestration "control delegation is missing, expired, revoked or out of scope"

def checkInTransaction (verified : Verified) (runId action : Identifier) :
    Option Identifier → Except SdkError Identifier
  | none => do
    check ((runId, action) ∈ verified.permissions)
      (.orchestration "control authority is not granted")
    return verified.principal
  | some delegationId => do
    let row ← present (store.delegations.find? delegationId) delegationRefused
    check (row.runId = runId ∧ row.action = action ∧ row.principal = verified.principal ∧
      row.revokedAt = none) delegationRefused
    let now ← store.observedTime
    check (now < row.expiresAt) delegationRefused
    return verified.principal

/-- The row is written and read back. -/
def enter (row : Delegation) : Delegation × AuthorityStore :=
  (row, { store with delegations := store.delegations.put row })

/-- A call's second transaction, behind its verification. -/
def verifiedThen {Answer : Type} (host : Host) (fault : StorageFault)
    (body : Verified → AuthorityStore → Except SdkError (Answer × AuthorityStore)) :
    Except SdkError Answer × AuthorityStore :=
  match store.verify host with
  | (.error failure, observed) => (.error failure, observed)
  | (.ok verified, observed) => fault.settle (body verified observed) observed

/-- The content that a request gives to its delegation. -/
def Matches (old : Delegation) (request : GrantRequest) (grantor : Identifier) (expiresAt : ℚ) :
    Prop :=
  old.runId = request.runId ∧ old.action = request.action ∧ old.principal = request.principal ∧
    old.grantedBy = grantor ∧ old.expiresAt = expiresAt

instance (old : Delegation) (request : GrantRequest) (grantor : Identifier) (expiresAt : ℚ) :
    Decidable (Matches old request grantor expiresAt) :=
  inferInstanceAs (Decidable (_ ∧ _))

/-- `grant`, once the caller is verified. -/
def grantVerified (request : GrantRequest) (expiresAt : ℚ) (verified : Verified)
    (store : AuthorityStore) : Except SdkError (Delegation × AuthorityStore) := do
  check ((request.runId, marked "delegate:" request.action) ∈ verified.permissions ∧
    (request.runId, request.action) ∈ verified.permissions)
    (.orchestration "delegation is not authorized")
  match store.delegations.find? request.delegationId with
  | some old =>
    check (Matches old request verified.principal expiresAt)
      (.commandConflict "delegation identity already has different content")
    return (old, store)
  | none =>
    let now ← store.observedTime
    check (now < request.expiresAt) (.orchestration "delegation is already expired")
    return store.enter ⟨request.delegationId, request.runId, request.action, request.principal,
      verified.principal, expiresAt, none, none, now⟩

/-- `grant`; `float` fails on an integer that is too large, before anything is verified. -/
def grant (float : ℚ → Except SdkError ℚ) (host : Host) (fault : StorageFault)
    (request : GrantRequest) : Except SdkError Delegation × AuthorityStore :=
  match float request.expiresAt with
  | .error failure => (.error failure, store)
  | .ok expiresAt => store.verifiedThen host fault (grantVerified request expiresAt)

/-- `revoke`, once the caller is verified. -/
def revokeVerified (delegationId : Identifier) (verified : Verified) (store : AuthorityStore) :
    Except SdkError (Delegation × AuthorityStore) := do
  let row ← present (store.delegations.find? delegationId)
    (.orchestration "unknown control delegation")
  check (verified.principal = row.grantedBy ∨
    (row.runId, marked "revoke:" row.action) ∈ verified.permissions)
    (.orchestration "delegation revocation is not authorized")
  match row.revokedAt with
  | some _ => return (row, store)
  | none =>
    let now ← store.observedTime
    return store.enter { row with revokedAt := some now, revokedBy := some verified.principal }

def revoke (host : Host) (fault : StorageFault) (delegationId : Identifier) :
    Except SdkError Delegation × AuthorityStore :=
  store.verifiedThen host fault (revokeVerified delegationId)

end AuthorityStore

inductive AuthorityCall where
  | verify (host : Host)
  | check (verified : Verified) (runId action : Identifier) (delegationId : Option Identifier)
  | grant (host : Host) (fault : StorageFault) (request : GrantRequest)
  | revoke (host : Host) (fault : StorageFault) (delegationId : Identifier)

/-- The store after a call. -/
def AuthorityStore.perform (float : ℚ → Except SdkError ℚ) (store : AuthorityStore) :
    AuthorityCall → AuthorityStore
  | .verify host => (store.verify host).2
  | .check _ _ _ _ => store
  | .grant host fault request => (store.grant float host fault request).2
  | .revoke host fault delegationId => (store.revoke host fault delegationId).2

/-- The calls one after another, from the empty ledger on. -/
def authority (float : ℚ → Except SdkError ℚ) : TransitionSystem AuthorityStore where
  initial store := store = ⟨∅, none⟩
  step before after := ∃ call, after = before.perform float call

/-! ### What a call changes -/

/-- Only the revocation of a row is ever written, and only once. -/
def Delegation.Becomes (old new : Delegation) : Prop :=
  new = { old with revokedAt := new.revokedAt, revokedBy := new.revokedBy } ∧
    (old.revokedAt ≠ none → new = old)

theorem Delegation.Becomes.trans {old new newest : Delegation} (first : old.Becomes new)
    (second : new.Becomes newest) : old.Becomes newest := by
  refine ⟨by rw [second.1, first.1], fun revoked => ?_⟩
  rw [second.2 (first.2 revoked ▸ revoked), first.2 revoked]

namespace AuthorityStore

variable {float : ℚ → Except SdkError ℚ} {store before after : AuthorityStore}
  {host : Host} {fault : StorageFault} {request : GrantRequest} {delegationId : Identifier}
  {verified : Verified} {row : Delegation} {expiresAt : ℚ}

/-- The latest observed time does not fall and no row goes. -/
structure Onward (before after : AuthorityStore) : Prop where
  observed : ∀ seen ∈ before.observedAt, ∃ now ∈ after.observedAt, seen ≤ now
  rows : ∀ old ∈ before.delegations, ∃ new ∈ after.delegations, old.Becomes new

theorem Onward.refl : Onward store store :=
  ⟨fun seen held => ⟨seen, held, le_rfl⟩, fun old held => ⟨old, held, rfl, fun _ => rfl⟩⟩

theorem Onward.trans {last : AuthorityStore} (first : Onward before after)
    (second : Onward after last) : Onward before last := by
  refine ⟨fun seen held => ?_, fun old held => ?_⟩
  · obtain ⟨now, observed, small⟩ := first.observed seen held
    obtain ⟨later, held, large⟩ := second.observed now observed
    exact ⟨later, held, small.trans large⟩
  · obtain ⟨new, stored, becomes⟩ := first.rows old held
    obtain ⟨newest, written, again⟩ := second.rows new stored
    exact ⟨newest, written, becomes.trans again⟩

theorem observe_onward (sample : ℚ) : Onward store (store.observe sample) := by
  refine ⟨fun seen held => ⟨max seen sample, ?_, le_max_left _ _⟩, Onward.refl.rows⟩
  rw [observe, Option.mem_def.mp held]
  rfl

theorem settle_ok {Answer : Type} {outcome : Except SdkError (Answer × AuthorityStore)}
    {answer : Answer} (passed : (fault.settle outcome before).1 = .ok answer) :
    outcome = .ok (answer, (fault.settle outcome before).2) := by
  unfold StorageFault.settle at passed ⊢
  split at passed <;> cases passed
  rfl

theorem settle_cases {Answer : Type} (outcome : Except SdkError (Answer × AuthorityStore)) :
    (fault.settle outcome before).2 = before ∨
      ∃ answer, outcome = .ok (answer, (fault.settle outcome before).2) := by
  unfold StorageFault.settle
  split
  · exact .inl rfl
  · exact .inl rfl
  · exact .inr ⟨_, rfl⟩
  · exact .inr ⟨_, rfl⟩

/-- A verification observes a sample or leaves everything as it is. -/
theorem verify_cases : (store.verify host).2 = store ∨
    ∃ sample, (store.verify host).2 = store.observe sample := by
  refine (settle_cases _).imp_right fun ⟨verified, passed⟩ => ?_
  simp only [passes_iff] at passed
  obtain ⟨_, -, sample, -, answered⟩ := passed
  exact ⟨sample, (congrArg Prod.snd (Except.ok.inj answered)).symm⟩

theorem verify_ok (passed : (store.verify host).1 = .ok verified) : host.answer = .ok verified := by
  have answered := settle_ok passed
  simp only [passes_iff] at answered
  obtain ⟨answer, judged, _, _, same⟩ := answered
  have said : answer = verified := congrArg Prod.fst (Except.ok.inj same)
  rw [judged, said]

section Calls

variable {Answer : Type}
  {body : Verified → AuthorityStore → Except SdkError (Answer × AuthorityStore)}

/-- The second transaction starts from the store that the verification left. -/
theorem verifiedThen_cases : (store.verifiedThen host fault body).2 = (store.verify host).2 ∨
    ∃ verified answer, host.answer = .ok verified ∧
      body verified (store.verify host).2 =
        .ok (answer, (store.verifiedThen host fault body).2) := by
  unfold verifiedThen
  split
  · rename_i verifies
    rw [verifies]
    exact .inl rfl
  · rename_i verified observed verifies
    have judged : host.answer = .ok verified := verify_ok (congrArg Prod.fst verifies)
    rw [verifies]
    exact (settle_cases _).imp_right fun ⟨answer, passed⟩ => ⟨verified, answer, judged, passed⟩

theorem verifiedThen_ok {answer : Answer}
    (passed : (store.verifiedThen host fault body).1 = .ok answer) :
    ∃ verified, body verified (store.verify host).2 =
      .ok (answer, (store.verifiedThen host fault body).2) := by
  unfold verifiedThen at passed ⊢
  split at passed
  · cases passed
  · rename_i verified observed verifies
    exact ⟨verified, by simp only [verifies]; exact settle_ok passed⟩

end Calls

/-- What a grant that goes through does, and for whom. -/
theorem grantVerified_ok
    (passed : grantVerified request expiresAt verified store = .ok (row, after)) :
    ((request.runId, marked "delegate:" request.action) ∈ verified.permissions ∧
      (request.runId, request.action) ∈ verified.permissions) ∧
    row.delegationId = request.delegationId ∧ Matches row request verified.principal expiresAt ∧
    (store.delegations.find? request.delegationId = some row ∧ after = store ∨
      store.delegations.find? request.delegationId = none ∧
        after = { store with delegations := store.delegations.put row }) := by
  unfold grantVerified at passed
  obtain ⟨_, permitted, passed⟩ := bind_eq_ok.mp passed
  refine ⟨check_eq_ok.mp permitted, ?_⟩
  split at passed
  · rename_i old stored
    simp only [passes_iff] at passed
    obtain ⟨same, answered⟩ := passed
    cases answered
    exact ⟨key_of_find? stored, same, .inl ⟨stored, rfl⟩⟩
  · rename_i fresh
    simp only [passes_iff] at passed
    obtain ⟨_, -, -, answered⟩ := passed
    cases answered
    exact ⟨rfl, ⟨rfl, rfl, rfl, rfl, rfl⟩, .inr ⟨fresh, rfl⟩⟩

theorem revokeVerified_ok (passed : revokeVerified delegationId verified store = .ok (row, after)) :
    row.revokedAt ≠ none ∧ after.delegations.find? delegationId = some row ∧
      ∃ old ∈ store.delegations, old.Becomes row ∧ (after = store ∨
        after = { store with delegations := store.delegations.put row }) := by
  unfold revokeVerified at passed
  obtain ⟨old, found, passed⟩ := bind_eq_ok.mp passed
  obtain ⟨_, -, passed⟩ := bind_eq_ok.mp passed
  have stored := present_eq_ok.mp found
  have named : old.delegationId = delegationId := key_of_find? stored
  split at passed
  · rename_i revoked
    cases passed
    exact ⟨by rw [revoked]; rintro ⟨⟩, stored, _, mem_of_find? stored, ⟨rfl, fun _ => rfl⟩,
      .inl rfl⟩
  · rename_i unrevoked
    obtain ⟨now, -, answered⟩ := bind_eq_ok.mp passed
    cases answered
    refine ⟨by rintro ⟨⟩, ?_, old, mem_of_find? stored, ⟨rfl, absurd unrevoked⟩, .inr rfl⟩
    rw [← named]
    exact find?_put_same _ _

theorem verify_onward : Onward store (store.verify host).2 ∧
    (store.verify host).2.delegations = store.delegations := by
  obtain same | ⟨sample, same⟩ := @verify_cases store host
  · rw [same]
    exact ⟨.refl, rfl⟩
  · rw [same]
    exact ⟨observe_onward sample, rfl⟩

/-- The call is a grant of the row by a caller who holds the action and may delegate it. -/
def Grants (float : ℚ → Except SdkError ℚ) (call : AuthorityCall) (row : Delegation) : Prop :=
  ∃ host fault request verified expiresAt, call = .grant host fault request ∧
    host.answer = .ok verified ∧
    ((row.runId, marked "delegate:" row.action) ∈ verified.permissions ∧
      (row.runId, row.action) ∈ verified.permissions) ∧
    row.delegationId = request.delegationId ∧ float request.expiresAt = .ok expiresAt ∧
    Matches row request verified.principal expiresAt

/-- The call has its caller verified by the host. -/
def Asks (float : ℚ → Except SdkError ℚ) (host : Host) : AuthorityCall → Prop
  | .verify asked | .revoke asked _ _ => asked = host
  | .grant asked _ request => asked = host ∧ ∃ expiresAt, float request.expiresAt = .ok expiresAt
  | .check _ _ _ _ => False

/-- A call observes a time, and then writes at most one row: one that it grants or one that
it revokes. -/
theorem perform_cases (call : AuthorityCall) : ∃ observed, Onward store observed ∧
    observed.delegations = store.delegations ∧
    (∀ host, Asks float host call → observed = (store.verify host).2) ∧
    (store.perform float call = observed ∨
      ∃ row, store.perform float call =
          { observed with delegations := observed.delegations.put row } ∧
        ((∃ old ∈ store.delegations, old.Becomes row) ∨
          store.delegations.find? row.delegationId = none ∧ Grants float call row)) := by
  cases call with
  | verify host => exact ⟨_, verify_onward.1, verify_onward.2, by rintro _ rfl; rfl, .inl rfl⟩
  | check => exact ⟨store, .refl, rfl, by rintro _ ⟨⟩, .inl rfl⟩
  | grant host fault request =>
    simp only [perform, grant]
    split
    · rename_i failed
      refine ⟨store, .refl, rfl, ?_, .inl rfl⟩
      rintro _ ⟨-, _, converted⟩
      cases failed.symm.trans converted
    · rename_i expiresAt converted
      obtain ⟨onward, kept⟩ := @verify_onward store host
      refine ⟨_, onward, kept, by rintro _ ⟨rfl, -⟩; rfl, ?_⟩
      obtain same | ⟨verified, row, judged, passed⟩ := verifiedThen_cases
      · exact .inl same
      · obtain ⟨permitted, named, content, ⟨-, same⟩ | ⟨fresh, same⟩⟩ := grantVerified_ok passed
        · exact .inl same
        · refine .inr ⟨row, same, .inr ⟨by rw [named, ← kept]; exact fresh, ?_⟩⟩
          refine ⟨host, fault, request, verified, expiresAt, rfl, judged, ?_, named, converted,
            content⟩
          rw [content.1, content.2.1]
          exact permitted
  | revoke host fault delegationId =>
    obtain ⟨onward, kept⟩ := @verify_onward store host
    refine ⟨_, onward, kept, by rintro _ rfl; rfl, ?_⟩
    obtain same | ⟨verified, row, -, passed⟩ :=
      @verifiedThen_cases store host fault _ (revokeVerified delegationId)
    · exact .inl same
    · obtain ⟨-, -, old, held, becomes, same | same⟩ := revokeVerified_ok passed
      · exact .inl same
      · exact .inr ⟨row, same, .inl ⟨old, kept ▸ held, becomes⟩⟩

/-- A call keeps the time and the rows. -/
theorem perform_onward (call : AuthorityCall) : Onward store (store.perform float call) := by
  obtain ⟨observed, onward, same, -, stays | ⟨row, writes, origin⟩⟩ := perform_cases call
  · exact stays ▸ onward
  · refine writes ▸ ⟨onward.observed, fun old held => ?_⟩
    by_cases named : old.delegationId = row.delegationId
    · refine ⟨row, mem_put.mpr (.inl rfl), ?_⟩
      have found := named ▸ find?_key held
      obtain ⟨other, stored, becomes⟩ | ⟨fresh, -⟩ := origin
      · have own : row.delegationId = other.delegationId := by rw [becomes.1]
        cases (find?_key stored).symm.trans (own ▸ found)
        exact becomes
      · cases fresh.symm.trans found
    · exact ⟨old, mem_put.mpr (.inr ⟨same ▸ held, named⟩), rfl, fun _ => rfl⟩

/-- The row was written by an earlier call that grants it. -/
def Granted (float : ℚ → Except SdkError ℚ) (store : AuthorityStore) (row : Delegation) : Prop :=
  ∃ before call, (authority float).Reachable before ∧ Grants float call row ∧
    (∃ first ∈ (before.perform float call).delegations, first.Becomes row) ∧
    (authority float).Run (before.perform float call) store

theorem rows_granted (reachable : (authority float).Reachable store) :
    ∀ row ∈ store.delegations, Granted float store row := by
  refine reachable.invariant (fun state => ∀ row ∈ state.delegations, Granted float state row) ?_ ?_
  · rintro _ rfl row ⟨⟩
  · rintro state _ reached granted ⟨call, rfl⟩ row held
    -- A row that was there, revoked or not, keeps the grant that it had.
    have earlier {old : Delegation} (stored : old ∈ state.delegations) (becomes : old.Becomes row) :
        Granted float (state.perform float call) row := by
      obtain ⟨before, grant, reached, grants, ⟨first, written, became⟩, run⟩ := granted old stored
      refine ⟨before, grant, reached, ?_, ⟨first, written, became.trans becomes⟩,
        run.tail ⟨call, rfl⟩⟩
      rw [becomes.1]
      exact grants
    obtain ⟨observed, -, same, -, stays | ⟨written, writes, origin⟩⟩ := perform_cases call
    · rw [stays, same] at held
      exact earlier held ⟨rfl, fun _ => rfl⟩
    · rw [writes] at held
      obtain rfl | ⟨old, -⟩ := mem_put.mp held
      · obtain ⟨old, stored, becomes⟩ | ⟨-, grants⟩ := origin
        · exact earlier stored becomes
        · refine ⟨state, call, reached, grants, ⟨row, ?_, rfl, fun _ => rfl⟩, .refl⟩
          exact writes ▸ held
      · exact earlier (same ▸ old) ⟨rfl, fun _ => rfl⟩

/-- No check of a delegation goes through. -/
def Refuses (store : AuthorityStore) (delegationId : Identifier) : Prop :=
  ∀ verified runId action principal,
    store.checkInTransaction verified runId action (some delegationId) ≠ .ok principal

/-- A row that names the Run, the action and the caller, and that is neither revoked nor expired. -/
def Authorises (store : AuthorityStore) (delegationId runId action principal : Identifier) : Prop :=
  ∃ row, store.delegations.find? delegationId = some row ∧ row.runId = runId ∧
    row.action = action ∧ row.principal = principal ∧ row.revokedAt = none ∧
    ∃ now, store.observedAt = some now ∧ now < row.expiresAt

/-- A delegation authorises its own Run, action and principal, and nothing else. -/
theorem check_ok_iff {runId action principal : Identifier} :
    store.checkInTransaction verified runId action (some delegationId) = .ok principal ↔
      principal = verified.principal ∧ store.Authorises delegationId runId action principal := by
  simp only [checkInTransaction, observedTime, passes_iff]
  constructor
  · rintro ⟨row, found, ⟨run, acts, own, open_⟩, now, observed, early, ⟨⟩⟩
    exact ⟨rfl, row, found, run, acts, own, open_, now, observed, early⟩
  · rintro ⟨rfl, row, found, run, acts, own, open_, now, observed, early⟩
    exact ⟨row, found, ⟨run, acts, own, open_⟩, now, observed, early, rfl⟩

/-- What any call's verification observed is remembered. -/
theorem perform_observes {call : AuthorityCall} {sample : ℚ} (asks : Asks float host call)
    (judged : host.answer = .ok verified) (sampled : host.clock = .ok sample)
    (kept : ∀ failure, host.fault ≠ .lost failure) :
    ∃ now ∈ (store.perform float call).observedAt, sample ≤ now := by
  have observes : (store.verify host).2 = store.observe sample := by
    unfold verify
    rw [judged, sampled]
    cases fault : host.fault with
    | lost failure => exact absurd fault (kept failure)
    | none => rfl
    | unacknowledged => rfl
  have noted : (store.perform float call).observedAt = (store.observe sample).observedAt := by
    obtain ⟨observed, -, -, same, stays | ⟨row, writes, -⟩⟩ := @perform_cases float store call
    · rw [stays, same host asks, observes]
    · rw [writes, same host asks, observes]
  rw [noted]
  refine ⟨_, rfl, ?_⟩
  cases store.observedAt with
  | none => exact le_rfl
  | some seen => exact le_max_right seen sample

/-- A grant under a taken identity leaves the rows; it answers the same request with the row and
fails another. -/
structure Replays (float : ℚ → Except SdkError ℚ) (store : AuthorityStore) (host : Host)
    (fault : StorageFault) (request : GrantRequest) (old : Delegation) : Prop where
  left : (store.grant float host fault request).2 = store ∨
    ∃ sample, (store.grant float host fault request).2 = store.observe sample
  answers : ∀ row, (store.grant float host fault request).1 = .ok row → row = old
  settles : ∀ verified expiresAt, (store.verify host).1 = .ok verified →
    float request.expiresAt = .ok expiresAt →
    (request.runId, marked "delegate:" request.action) ∈ verified.permissions ∧
      (request.runId, request.action) ∈ verified.permissions →
    store.grant float host fault request = fault.settle
      (if Matches old request verified.principal expiresAt then .ok (old, (store.verify host).2)
        else .error (.commandConflict "delegation identity already has different content"))
      (store.verify host).2

theorem grant_taken {old : Delegation}
    (taken : store.delegations.find? request.delegationId = some old) :
    Replays float store host fault request old := by
  have found : (store.verify host).2.delegations.find? request.delegationId = some old := by
    rw [verify_onward.2, taken]
  cases converted : float request.expiresAt with
  | error failure =>
    have failed : store.grant float host fault request = (.error failure, store) := by
      rw [grant, converted]
    refine ⟨.inl (by rw [failed]), by rw [failed]; rintro _ ⟨⟩, fun _ _ _ same => ?_⟩
    cases converted.symm.trans same
  | ok expiresAt =>
    have calls : store.grant float host fault request =
        store.verifiedThen host fault (grantVerified request expiresAt) := by
      rw [grant, converted]
    have stays {row : Delegation} {verified : Verified} {after : AuthorityStore}
        (passed : grantVerified request expiresAt verified (store.verify host).2 =
          .ok (row, after)) :
        row = old ∧ after = (store.verify host).2 := by
      obtain ⟨-, -, -, ⟨stored, same⟩ | ⟨fresh, -⟩⟩ := grantVerified_ok passed
      · exact ⟨Option.some.inj (stored.symm.trans found), same⟩
      · cases fresh.symm.trans found
    refine ⟨?_, fun row passed => ?_, fun verified other verifies same permitted => ?_⟩ <;>
      rw [calls] at *
    · obtain same | ⟨_, _, -, passed⟩ :=
        @verifiedThen_cases store host fault _ (grantVerified request expiresAt)
      · exact same ▸ verify_cases
      · exact (stays passed).2 ▸ verify_cases
    · obtain ⟨verified, passed⟩ := verifiedThen_ok passed
      exact (stays passed).1
    · cases converted.symm.trans same
      have decides : grantVerified request expiresAt verified (store.verify host).2 =
          if Matches old request verified.principal expiresAt then .ok (old, (store.verify host).2)
          else .error (.commandConflict "delegation identity already has different content") := by
        simp only [grantVerified, check, if_pos permitted, found, bind, Except.bind]
        by_cases content : Matches old request verified.principal expiresAt
        · simp only [if_pos content]
          rfl
        · simp only [if_neg content]
      rw [← decides]
      unfold verifiedThen
      split
      · rename_i failed
        rw [failed] at verifies
        cases verifies
      · rename_i answered
        rw [answered] at verifies ⊢
        cases verifies
        rfl

/-- Delegated authority, in every state that any calls lead to. -/
theorem delegated_authority_holds (float : ℚ → Except SdkError ℚ) {store : AuthorityStore}
    (reachable : (authority float).Reachable store) :
    (∀ verified delegationId runId action principal,
      store.checkInTransaction verified runId action (some delegationId) = .ok principal ↔
        principal = verified.principal ∧ store.Authorises delegationId runId action principal) ∧
    (∀ row ∈ store.delegations, Granted float store row) ∧
    (∀ last, (authority float).Run store last →
      (∀ old ∈ store.delegations, ∃ new ∈ last.delegations, old.Becomes new) ∧
      ∀ row ∈ last.delegations,
        (∃ old ∈ store.delegations, old.delegationId = row.delegationId ∧ old.revokedAt ≠ none) ∨
          (∃ now ∈ store.observedAt, row.expiresAt ≤ now) → last.Refuses row.delegationId) ∧
    (∀ host call verified sample, Asks float host call → host.answer = .ok verified →
      host.clock = .ok sample → (∀ failure, host.fault ≠ .lost failure) →
      ∃ now ∈ (store.perform float call).observedAt, sample ≤ now) ∧
    (∀ host fault delegationId row, (store.revoke host fault delegationId).1 = .ok row →
      row.revokedAt ≠ none ∧
        (store.revoke host fault delegationId).2.delegations.find? delegationId = some row) ∧
    ∀ host fault request old, store.delegations.find? request.delegationId = some old →
      Replays float store host fault request old := by
  refine ⟨fun _ _ _ _ _ => check_ok_iff, rows_granted reachable, fun last run => ?_,
    fun _ _ _ _ => perform_observes, fun _ _ _ _ passed => ?_, fun _ _ _ _ => grant_taken⟩
  · have onward : Onward store last := reachable.respects Onward (fun _ => .refl) .trans
      (fun state next _ => by rintro ⟨call, rfl⟩; exact perform_onward call) run
    refine ⟨onward.rows, fun row held spent verified runId action principal passed => ?_⟩
    obtain ⟨-, other, found, -, -, -, unrevoked, now, observed, early⟩ := check_ok_iff.mp passed
    cases (find?_key held).symm.trans found
    obtain ⟨old, stored, named, revoked⟩ | ⟨seen, noted, past⟩ := spent
    · obtain ⟨new, kept, becomes, stays⟩ := onward.rows old stored
      have same := find?_key kept
      rw [stays revoked, named] at same
      cases same.symm.trans found
      exact revoked unrevoked
    · obtain ⟨later, held, least⟩ := onward.observed seen noted
      cases held.symm.trans observed
      exact absurd early (not_lt.mpr (past.trans least))
  · obtain ⟨verified, revokes⟩ := verifiedThen_ok passed
    obtain ⟨revoked, found, -⟩ := revokeVerified_ok revokes
    exact ⟨revoked, found⟩

/-! ### A grant in conflict -/

def sampleGrantor : Verified where
  principal := ⟨"grantor", by decide⟩
  permissions := [(⟨"ledger", by decide⟩, ⟨"stop", by decide⟩),
    (⟨"ledger", by decide⟩, marked "delegate:" ⟨"stop", by decide⟩)]

def sampleDeputy : Verified := ⟨⟨"deputy", by decide⟩, []⟩

def sampleHost (sample : ℚ) : Host := ⟨.ok sampleGrantor, .ok sample, .none⟩

def sampleRow (principal : Identifier) : Delegation :=
  ⟨⟨"delegation", by decide⟩, ⟨"ledger", by decide⟩, ⟨"stop", by decide⟩, principal,
    sampleGrantor.principal, 10, none, none, 1⟩

def sampleRequest (principal : Identifier) : GrantRequest :=
  ⟨⟨"delegation", by decide⟩, ⟨"ledger", by decide⟩, ⟨"stop", by decide⟩, principal, 10⟩

/-- The ledger after one grant to a deputy. -/
def sampleLedger : AuthorityStore :=
  perform .ok ⟨∅, none⟩ (.grant (sampleHost 1) .none (sampleRequest sampleDeputy.principal))

theorem sampleLedger_reachable : (authority .ok).Reachable sampleLedger :=
  (TransitionSystem.Reachable.start rfl).next ⟨_, rfl⟩

theorem sampleLedger_row :
    sampleLedger.delegations.find? ⟨"delegation", by decide⟩ =
      some (sampleRow sampleDeputy.principal) := by
  rfl

theorem delegated_authority_holds_sample :
    (sampleLedger.verify (sampleHost 20)).2.Refuses ⟨"delegation", by decide⟩ := by
  obtain ⟨-, -, stays, -⟩ := delegated_authority_holds .ok
    (sampleLedger_reachable.next ⟨.verify (sampleHost 20), rfl⟩)
  refine (stays _ .refl).2 (sampleRow sampleDeputy.principal) (mem_of_find? sampleLedger_row)
    (.inr ⟨20, ?_, by decide⟩)
  decide +kernel

/-- A grant in conflict with a delegation can raise the observed time past its expiry. -/
theorem conflicting_grant_expires : (authority .ok).Reachable sampleLedger ∧
    sampleLedger.checkInTransaction sampleDeputy ⟨"ledger", by decide⟩ ⟨"stop", by decide⟩
      (some ⟨"delegation", by decide⟩) = .ok sampleDeputy.principal ∧
    (sampleLedger.grant .ok (sampleHost 20) .none (sampleRequest sampleGrantor.principal)).1 =
      .error (.commandConflict "delegation identity already has different content") ∧
    (sampleLedger.grant .ok (sampleHost 20) .none
      (sampleRequest sampleGrantor.principal)).2.checkInTransaction sampleDeputy
        ⟨"ledger", by decide⟩ ⟨"stop", by decide⟩ (some ⟨"delegation", by decide⟩) =
      .error delegationRefused := by
  refine ⟨sampleLedger_reachable, by decide +kernel, rfl, by decide +kernel⟩

end AuthorityStore

end DispatcherSdk.Orchestrator
