/-
This file proves what holds of control leases and of their takeovers, however the
transactions of both stores are interleaved and wherever a process stops between them.

The takeovers of an operation form a chain in the Kernel, and the Orchestrator acknowledges
the last one: a takeover follows only what has been acknowledged, so nothing follows a
takeover before its own acknowledgement.
-/

import DispatcherSdk.ExecutionKernel.ControlTakeover
import DispatcherSdk.ExecutionKernel.Reachable
import DispatcherSdk.Orchestrator.Reducer

namespace DispatcherSdk.Orchestrator

open Library Library.Checked Table
open ExecutionKernel (Identifier Timestamp ControlLeaseBinding OrchestratorIdentity)

/-! ### Leases -/

/-- The host's answer to a lease credential. -/
structure LeaseClaim where
  operationId : Identifier
  runId : Identifier
  kernelStoreId : Identifier
  orchestrator : OrchestratorIdentity
  binding : ControlLeaseBinding
  expiresAt : Timestamp
  held : Bool
  scope : String
  deriving DecidableEq

/-- What the operation expects of the claim; the lease itself only once it has been seen. -/
structure LeaseExpectation where
  operationId : Identifier
  runId : Identifier
  kernelStoreId : Identifier
  orchestrator : OrchestratorIdentity
  binding : Option ControlLeaseBinding

/-- The claim is what the operation expects. -/
def LeaseExpectation.Met (expected : LeaseExpectation) (claim : LeaseClaim) : Prop :=
  claim.operationId = expected.operationId ∧ claim.runId = expected.runId ∧
    claim.kernelStoreId = expected.kernelStoreId ∧ claim.orchestrator = expected.orchestrator ∧
    ∀ binding ∈ expected.binding, claim.binding = binding

instance (expected : LeaseExpectation) (claim : LeaseClaim) : Decidable (expected.Met claim) := by
  unfold LeaseExpectation.Met
  infer_instance

/-- A row of `sdk_control_lease_fences`. -/
structure LeaseFence where
  runId : Identifier
  binding : ControlLeaseBinding

/-- `sdk_control_authority_clock` and `sdk_control_lease_fences`. -/
structure LeaseBook where
  observedAt : Option Timestamp
  fences : Table LeaseFence.runId

def LeaseBook.empty : LeaseBook := ⟨none, ∅⟩

/-- `observe_control_clock`, a transaction of its own. -/
def observeControlClock (now : Timestamp) (book : LeaseBook) : LeaseBook :=
  { book with observedAt := some (max (book.observedAt.getD now) now) }

/-- A check asks the host, which may raise, and reads the clock. -/
structure LeaseLook where
  answer : Option LeaseClaim
  expected : LeaseExpectation
  clock : Timestamp

def leaseRefusal : SdkError :=
  .orchestration "host exclusive control lease is unavailable, expired or stale"

/-- The part of `check_control_lease` that is about the claim by itself. -/
def LeaseLook.vetted (look : LeaseLook) : Except SdkError LeaseClaim := do
  let claim ← present look.answer leaseRefusal
  check ((∀ name ∈ [claim.operationId, claim.runId, claim.kernelStoreId,
        claim.orchestrator.storeId, claim.orchestrator.incarnation, claim.binding.leaseId],
        name.text.utf8ByteSize ≤ 4096) ∧
      claim.binding.leaseFence ≤ ExecutionKernel.maxSqliteInteger ∧ claim.held = true ∧
      claim.scope = "resume_cancel_revoke_through_commit" ∧ look.expected.Met claim) leaseRefusal
  return claim

/-- The time of a check: the clock, or what was observed before if that is later. -/
def LeaseLook.now (look : LeaseLook) (observedAt : Timestamp) : Timestamp :=
  max look.clock observedAt

/-- A lease does not follow a prior one of its Run that is higher, or another one that is equal. -/
def LeaseFence.precedes (prior : LeaseFence) (binding : ControlLeaseBinding) : Prop :=
  prior.binding.leaseFence < binding.leaseFence ∨ prior.binding = binding

instance (prior : LeaseFence) (binding : ControlLeaseBinding) :
    Decidable (prior.precedes binding) := by
  unfold LeaseFence.precedes
  infer_instance

def checkControlLease (look : LeaseLook) (book : LeaseBook) :
    Except SdkError (LeaseClaim × LeaseBook) := do
  let claim ← look.vetted
  let observedAt ← present book.observedAt leaseRefusal
  check (look.now observedAt < claim.expiresAt) leaseRefusal
  check (∀ prior ∈ book.fences.find? claim.runId, prior.precedes claim.binding) leaseRefusal
  return (claim,
    { observedAt := some (look.now observedAt)
      fences := book.fences.put ⟨claim.runId, claim.binding⟩ })

/-- The checks of one transaction, one after another. -/
def checkLeases : List LeaseLook → LeaseBook → Except SdkError LeaseBook
  | [], book => .ok book
  | look :: rest, book => do
    let (_, after) ← checkControlLease look book
    checkLeases rest after

/-! ### What was seen -/

/-- A lease that a check has seen, at the time of the check, and whether the transaction has accepted
it and was committed. -/
structure LeaseEntry where
  claim : LeaseClaim
  now : Timestamp
  accepted : Bool

/-- The leases that the checks of one transaction get to see. -/
def seenLeases (accepted : Bool) : List LeaseLook → LeaseBook → List LeaseEntry
  | [], _ => []
  | look :: rest, book =>
    match look.vetted, book.observedAt with
    | .ok claim, some observedAt =>
      ⟨claim, look.now observedAt, accepted⟩ ::
        match checkControlLease look book with
        | .ok (_, after) => seenLeases accepted rest after
        | .error _ => []
    | _, _ => []

/-- The lease had expired when it was seen. -/
def LeaseEntry.Expired (entry : LeaseEntry) : Prop := entry.claim.expiresAt ≤ entry.now

/-- The expiry of a lease has been observed, and the observation is committed. -/
def LeaseBook.Outlived (book : LeaseBook) (claim : LeaseClaim) : Prop :=
  ∃ observedAt ∈ book.observedAt, claim.expiresAt ≤ observedAt

/-- Fences of a Run do not go down, and two leases with the same fence are the same. -/
def LeaseEntry.Before (earlier later : LeaseEntry) : Prop :=
  earlier.accepted = true → later.accepted = true → earlier.claim.runId = later.claim.runId →
    earlier.claim.binding.leaseFence < later.claim.binding.leaseFence ∨
      earlier.claim.binding = later.claim.binding

/-- A lease that was seen at or past its expiry is not accepted later. -/
def LeaseEntry.Sticks (earlier later : LeaseEntry) : Prop :=
  earlier.Expired → earlier.claim = later.claim → later.accepted = false

instance (earlier later : LeaseEntry) : Decidable (earlier.Sticks later) := by
  unfold LeaseEntry.Sticks LeaseEntry.Expired
  infer_instance

open ExecutionKernel (Identifier Timestamp ControlLeaseBinding ControlDecision ControlReceipt
  KernelError KernelState TakeoverClaim TakeoverKernel TakeoverPhase TakeoverReceipt
  TakeoverSurroundings)

/-! ### The Orchestrator's journal of takeovers -/

/-- The durable decision of an activation or a resume. -/
structure OriginalIntent where
  phase : TakeoverPhase
  decision : ControlDecision

def OriginalIntent.key (intent : OriginalIntent) : TakeoverPhase × Identifier :=
  (intent.phase, intent.decision.operationId)

/-- How a takeover was found to be absent. -/
structure TakeoverAbsence where
  current : ControlLeaseBinding
  observedAt : Timestamp

/-- A row of `sdk_control_lease_takeovers`. -/
structure TakeoverRow where
  claim : TakeoverClaim
  kernelReceipt : Option TakeoverReceipt
  resolution : Option TakeoverAbsence

def TakeoverRow.takeoverId (row : TakeoverRow) : Identifier := row.claim.takeoverId

/-- `sdk_revision_activations` and `sdk_revision_resumes`, the Runs of `sdk_cancellation_fences`,
and `sdk_control_lease_takeovers`. -/
structure TakeoverJournal where
  originals : Table OriginalIntent.key
  cancelled : List Identifier
  rows : Table TakeoverRow.takeoverId

def TakeoverJournal.empty : TakeoverJournal := ⟨∅, [], ∅⟩

namespace TakeoverJournal

variable (journal : TakeoverJournal)

/-- The takeovers of an operation that were not found to be absent. -/
def standing (operationId : Identifier) : List TakeoverRow :=
  journal.rows.rows.filter fun row =>
    row.claim.operationId = operationId ∧ row.resolution.isNone

/-- The one of them with the highest fence. -/
def latest (operationId : Identifier) : Option TakeoverRow :=
  (journal.standing operationId).argmax fun row => row.claim.new.leaseFence

/-- `_effective_orchestrator_control_lease`. -/
def effectiveLease (operationId : Identifier) (original : ControlLeaseBinding) :
    Except SdkError ControlLeaseBinding :=
  match journal.latest operationId with
  | none => .ok original
  | some row => do
    check (row.kernelReceipt.isSome = true)
      (.orchestration "control lease takeover has not been acknowledged")
    return row.claim.new

/-- What a transaction of a takeover reads. -/
structure Reading where
  original : ControlDecision
  previous : ControlLeaseBinding
  pending : Option TakeoverClaim

/-- The lease that a new takeover follows, and the takeover that is pending. -/
def previousLease (phase : TakeoverPhase) (takeoverId : Identifier) (original : ControlDecision)
    (latest : Option TakeoverRow) : Except SdkError (ControlLeaseBinding × Option TakeoverClaim) :=
  match latest with
  | none => .ok (original.lease, none)
  | some row => do
    check (row.claim.phase = phase) (.commandConflict "takeover phase differs")
    return if row.kernelReceipt.isNone ∨ row.claim.takeoverId = takeoverId then
      (row.claim.previous, some row.claim)
    else (row.claim.new, none)

/-- `read` of `takeover_cross_store_control_lease`, under a lease that has been checked. -/
def readTakeover (phase : TakeoverPhase) (operationId takeoverId : Identifier)
    (lease : LeaseClaim) : Except SdkError Reading := do
  let intent ← present (journal.originals.find? (phase, operationId))
    (.orchestration "durable original control intent is required")
  check (intent.decision.runId ∉ journal.cancelled)
    (.revisionConflict "cancelled Run cannot transfer control")
  let (previous, pending) ← previousLease phase takeoverId intent.decision
    (journal.latest operationId)
  check (∀ other ∈ journal.rows.find? takeoverId, other.claim.operationId = operationId)
    (.commandConflict "takeover identity belongs to another operation")
  check (previous.leaseFence < lease.binding.leaseFence ∧
      ∀ item ∈ pending, item.new.leaseFence < lease.binding.leaseFence ∨ lease.binding = item.new)
    (.revisionConflict "new takeover lease differs or is not newer")
  return ⟨intent.decision, previous, pending⟩

/-- What a claim takes from the Kernel: the receipt of the operation, and the budget of the Run. -/
structure Observed where
  receipt : Option ControlReceipt
  maxClaims : ℕ
  claimsUsed : ℕ
  deadlineAt : Timestamp

def newClaim (phase : TakeoverPhase) (takeoverId : Identifier) (reading : Reading)
    (observed : Observed) (lease : LeaseClaim) : TakeoverClaim where
  takeoverId
  phase
  operationId := lease.operationId
  runId := lease.runId
  kernelStoreId := lease.kernelStoreId
  orchestrator := lease.orchestrator
  generation := reading.original.generation
  controlEpoch := reading.original.expectedControlEpoch
  originalDecision := reading.original
  originalReceipt := observed.receipt
  previous := reading.previous
  new := lease.binding
  leaseExpiresAt := lease.expiresAt
  leaseHeld := true
  oldHolderExcluded := true
  maxClaims := observed.maxClaims
  claimsUsed := observed.claimsUsed
  deadlineAt := observed.deadlineAt

/-- The transaction that records a claim, when nothing is pending. -/
def recordTakeover (phase : TakeoverPhase) (takeoverId : Identifier) (observed : Observed)
    (lease : LeaseClaim) : Except SdkError TakeoverJournal := do
  let reading ← journal.readTakeover phase lease.operationId takeoverId lease
  check (reading.pending.isNone = true) (.revisionConflict "control takeover source changed")
  check (journal.rows.find? takeoverId).isNone
    (.storage "UNIQUE constraint failed: sdk_control_lease_takeovers.takeover_id")
  let row : TakeoverRow := ⟨newClaim phase takeoverId reading observed lease, none, none⟩
  return { journal with rows := journal.rows.put row }

/-- The transaction that records what the Kernel has said about the pending takeover: that it is
absent, or its receipt. -/
def settleTakeover (phase : TakeoverPhase) (takeoverId : Identifier) (pending : TakeoverClaim)
    (answer : Option TakeoverReceipt) (observedAt : Timestamp) (lease : LeaseClaim) :
    Except SdkError TakeoverJournal := do
  check (∀ receipt ∈ answer, receipt.claim = pending)
    (.revisionConflict "inspected control takeover differs")
  let reading ← journal.readTakeover phase lease.operationId takeoverId lease
  check (reading.pending = some pending)
    (.revisionConflict "pending takeover changed during inspection")
  let evidence := SdkError.revisionConflict "recorded takeover evidence changed"
  let row ← present (journal.rows.find? pending.takeoverId) evidence
  check (row.resolution.isNone = true ∧ ∀ stored ∈ row.kernelReceipt, answer = some stored) evidence
  match answer with
  | none =>
    return { journal with
      rows := journal.rows.put { row with resolution := some ⟨lease.binding, observedAt⟩ } }
  | some receipt =>
    return { journal with rows := journal.rows.put { row with kernelReceipt := some receipt } }

end TakeoverJournal

/-! ### Both stores -/

/-- Both stores, what the Kernel has answered, and every lease that was seen, in order. -/
structure LeaseSystem where
  book : LeaseBook
  journal : TakeoverJournal
  kernel : TakeoverKernel
  receipts : List TakeoverReceipt
  absences : List TakeoverClaim
  seen : List LeaseEntry

/-- What a transaction that has checked its leases writes to the journal. -/
inductive JournalWrite (system : LeaseSystem) : List LeaseLook → TakeoverJournal → Prop
  /-- An operation that writes nothing of what is modelled. -/
  | elsewhere (looks) : JournalWrite system looks system.journal
  /-- An activation or a resume is decided. -/
  | decide (looks) (intent : OriginalIntent)
      (fresh : system.journal.originals.find? intent.key = none) :
      JournalWrite system looks
        { system.journal with originals := system.journal.originals.put intent }
  /-- A Run is cancelled. -/
  | cancel (looks) (runId) :
      JournalWrite system looks { system.journal with cancelled := runId :: system.journal.cancelled }
  | record {looks lease journal} (phase takeoverId observed)
      (checked : ∃ look ∈ looks.head?, look.vetted = .ok lease)
      (accepted : system.journal.recordTakeover phase takeoverId observed lease = .ok journal) :
      JournalWrite system looks journal
  | settle {looks lease journal} (phase takeoverId pending answer observedAt)
      (checked : ∃ look ∈ looks.head?, look.vetted = .ok lease)
      (answered : ∀ receipt ∈ answer, receipt ∈ system.receipts)
      (absent : answer = none → pending ∈ system.absences)
      (accepted : system.journal.settleTakeover phase takeoverId pending answer observedAt lease =
        .ok journal) :
      JournalWrite system looks journal

/-- The condition on a transaction that is rolled back. -/
abbrev RollBackCondition := LeaseBook → List LeaseLook → Prop

/-- A transaction of the Orchestrator or of the Kernel. -/
inductive LeaseStep (condition : RollBackCondition) : LeaseSystem → LeaseSystem → Prop
  | observe {system} (now) :
      LeaseStep condition system { system with book := observeControlClock now system.book }
  | commit {system looks book journal} (accepted : checkLeases looks system.book = .ok book)
      (written : JournalWrite system looks journal) :
      LeaseStep condition system
        { system with book, journal, seen := system.seen ++ seenLeases true looks system.book }
  | rollBack {system} (looks) (permitted : condition system.book looks) :
      LeaseStep condition system
        { system with seen := system.seen ++ seenLeases false looks system.book }
  | take {system receipt kernel} (row surroundings) (recorded : row ∈ system.journal.rows)
      (taken : system.kernel.takeoverControlLease row.claim surroundings = .ok (receipt, kernel)) :
      LeaseStep condition system { system with kernel, receipts := receipt :: system.receipts }
  | inspect {system receipt} (claim current)
      (inspected : system.kernel.inspectControlTakeover claim current = .ok (some receipt)) :
      LeaseStep condition system { system with receipts := receipt :: system.receipts }
  | missing {system} (claim current)
      (inspected : system.kernel.inspectControlTakeover claim current = .ok none) :
      LeaseStep condition system { system with absences := claim :: system.absences }
  | kernel {system} (operation : ExecutionKernel.Operation) (environment watermark) :
      LeaseStep condition system
        { system with
          kernel.database := (operation.apply environment
            ⟨{ system.kernel.database with gates := system.kernel.gates }, watermark⟩).database }

/-- An empty Orchestrator and a new Kernel. -/
def leaseSystem (condition : RollBackCondition) : TransitionSystem LeaseSystem where
  initial system := ∃ storeId, system = ⟨.empty, .empty, ⟨.initial storeId, []⟩, [], [], []⟩
  step := LeaseStep condition

/-- Nothing expires in a transaction that is rolled back unless the committed observation was
already past it. -/
def ExpiriesCommitted (book : LeaseBook) (looks : List LeaseLook) : Prop :=
  ∀ entry ∈ seenLeases false looks book, entry.Expired → book.Outlived entry.claim

open Relation List Option
open ExecutionKernel (Identifier Timestamp ControlLeaseBinding ControlDecision ControlReceipt
  HostGates KernelError KernelState TakeoverClaim TakeoverKernel TakeoverPhase TakeoverReceipt
  TakeoverSurroundings)

/-! ### Leases that were seen -/

theorem LeaseFence.precedes.trans {first second : LeaseFence} {third : ControlLeaseBinding}
    (before : first.precedes second.binding) (after : second.precedes third) :
    first.precedes third := by
  unfold LeaseFence.precedes at *
  rcases before with below | same
  · rcases after with further | equal
    · exact .inl (below.trans further)
    · rw [← equal]
      exact .inl below
  · rw [same]
    exact after

variable {claim : LeaseClaim}

theorem LeaseBook.Outlived.mono {book after : LeaseBook} (outlived : book.Outlived claim)
    (later : ∀ before ∈ book.observedAt, ∃ now ∈ after.observedAt, before ≤ now) :
    after.Outlived claim := by
  obtain ⟨observedAt, found, past⟩ := outlived
  obtain ⟨now, present, forward⟩ := later observedAt found
  exact ⟨now, present, past.trans forward⟩

/-- What was accepted and what has expired is in the book. -/
structure LeasesKept (book : LeaseBook) (seen : List LeaseEntry) : Prop where
  fenced : ∀ entry ∈ seen, entry.accepted = true →
    ∃ row ∈ book.fences.find? entry.claim.runId,
      LeaseFence.precedes ⟨entry.claim.runId, entry.claim.binding⟩ row.binding
  outlived : ∀ entry ∈ seen, entry.Expired → book.Outlived entry.claim
  ordered : seen.Pairwise LeaseEntry.Before
  sticky : seen.Pairwise LeaseEntry.Sticks

theorem checkControlLease_eq_ok {look : LeaseLook} {book after : LeaseBook}
    (passed : checkControlLease look book = .ok (claim, after)) :
    look.vetted = .ok claim ∧ ∃ observedAt ∈ book.observedAt,
      look.now observedAt < claim.expiresAt ∧
      (∀ prior ∈ book.fences.find? claim.runId, prior.precedes claim.binding) ∧
      after = ⟨some (look.now observedAt), book.fences.put ⟨claim.runId, claim.binding⟩⟩ := by
  simp only [checkControlLease, bind_eq_ok, present_eq_ok, check_eq_ok] at passed
  obtain ⟨vetted, named, observedAt, found, _, inTime, _, above, done⟩ := passed
  cases done
  exact ⟨named, observedAt, found, inTime, above, rfl⟩

section Seen

variable {book after : LeaseBook} {seen : List LeaseEntry}

theorem LeasesKept.observe (kept : LeasesKept book seen) (now : Timestamp) :
    LeasesKept (observeControlClock now book) seen := by
  refine ⟨kept.fenced, fun entry member expired => ?_, kept.ordered, kept.sticky⟩
  refine (kept.outlived entry member expired).mono fun before found => ?_
  exact ⟨_, rfl, by rw [mem_def.mp found]; exact le_max_left _ _⟩

theorem LeasesKept.accept (kept : LeasesKept book seen) {look : LeaseLook}
    (passed : checkControlLease look book = .ok (claim, after)) :
    ∃ observedAt ∈ book.observedAt, look.vetted = .ok claim ∧
      LeasesKept after (seen ++ [⟨claim, look.now observedAt, true⟩]) := by
  obtain ⟨vetted, observedAt, found, inTime, above, rfl⟩ := checkControlLease_eq_ok passed
  refine ⟨observedAt, found, vetted, fun entry member accepted => ?_,
    fun entry member expired => ?_, ?_, ?_⟩
  · rcases mem_append.mp member with old | new
    · obtain ⟨row, stored, precedes⟩ := kept.fenced entry old accepted
      show ∃ row ∈ (book.fences.put _).find? _, _
      by_cases own : entry.claim.runId = claim.runId
      · rw [own] at stored ⊢
        refine ⟨⟨claim.runId, claim.binding⟩, find?_put_same _ _, ?_⟩
        rw [own] at precedes
        exact precedes.trans (above row stored)
      · have other : (book.fences.put ⟨claim.runId, claim.binding⟩).find? entry.claim.runId =
            book.fences.find? entry.claim.runId := find?_put_other _ own
        exact ⟨row, other ▸ stored, precedes⟩
    · rw [mem_singleton.mp new]
      exact ⟨⟨claim.runId, claim.binding⟩, find?_put_same _ _, Or.inr rfl⟩
  · rcases mem_append.mp member with old | new
    · refine (kept.outlived entry old expired).mono fun before same => ?_
      rw [mem_def.mp found] at same
      cases same
      exact ⟨_, rfl, le_max_right _ _⟩
    · rw [mem_singleton.mp new] at expired
      exact absurd inTime (not_lt.mpr expired)
  · refine pairwise_append.mpr ⟨kept.ordered, pairwise_singleton _ _, ?_⟩
    intro earlier member later single
    rw [mem_singleton.mp single]
    intro accepted _ same
    obtain ⟨row, stored, precedes⟩ := kept.fenced earlier member accepted
    rw [same] at stored
    exact precedes.trans (above row stored)
  · refine pairwise_append.mpr ⟨kept.sticky, pairwise_singleton _ _, ?_⟩
    intro earlier member later single
    rw [mem_singleton.mp single]
    intro expired same
    obtain ⟨before, stored, past⟩ := kept.outlived earlier member expired
    rw [mem_def.mp found] at stored
    cases stored
    rw [same] at past
    exact absurd (past.trans (le_max_right _ _)) (not_le.mpr inTime)

theorem LeasesKept.commit (looks : List LeaseLook) (kept : LeasesKept book seen)
    (passed : checkLeases looks book = .ok after) :
    LeasesKept after (seen ++ seenLeases true looks book) := by
  induction looks generalizing book seen with
  | nil =>
    cases passed
    rw [seenLeases, append_nil]
    exact kept
  | cons look rest hypothesis =>
    obtain ⟨⟨claim, between⟩, first, others⟩ := bind_eq_ok.mp passed
    obtain ⟨observedAt, found, vetted, accepted⟩ := kept.accept first
    unfold seenLeases
    rw [vetted, mem_def.mp found, first]
    dsimp only
    rw [append_cons]
    exact hypothesis accepted others

theorem seenLeases_accepted {accepted : Bool} (looks : List LeaseLook) :
    ∀ book, ∀ entry ∈ seenLeases accepted looks book, entry.accepted = accepted := by
  induction looks with
  | nil => intro book entry member; cases member
  | cons look rest hypothesis =>
    intro book entry member
    unfold seenLeases at member
    split at member
    · rcases mem_cons.mp member with rfl | later
      · rfl
      · split at later
        · exact hypothesis _ entry later
        · cases later
    · cases member

theorem LeasesKept.rollBack (looks : List LeaseLook) (kept : LeasesKept book seen)
    (committed : ExpiriesCommitted book looks) :
    LeasesKept book (seen ++ seenLeases false looks book) := by
  have refused : ∀ entry ∈ seenLeases false looks book, entry.accepted = false :=
    seenLeases_accepted looks book
  refine ⟨fun entry member accepted => ?_, fun entry member expired => ?_, ?_, ?_⟩
  · rcases mem_append.mp member with old | new
    · exact kept.fenced entry old accepted
    · rw [refused entry new] at accepted
      cases accepted
  · rcases mem_append.mp member with old | new
    · exact kept.outlived entry old expired
    · exact committed entry new expired
  · refine pairwise_append.mpr ⟨kept.ordered, pairwise_of_forall_mem_list ?_, ?_⟩
    · intro earlier member later _ accepted
      rw [refused earlier member] at accepted
      cases accepted
    · intro earlier _ later member _ accepted
      rw [refused later member] at accepted
      cases accepted
  · refine pairwise_append.mpr ⟨kept.sticky, pairwise_of_forall_mem_list ?_, ?_⟩
    · exact fun _ _ later member _ _ => refused later member
    · exact fun _ _ later member _ _ => refused later member

end Seen

/-! ### What a transaction of a takeover reads -/

section Reading

variable {journal : TakeoverJournal} {operationId : Identifier} {row : TakeoverRow}

theorem TakeoverJournal.mem_standing :
    row ∈ journal.standing operationId ↔
      row ∈ journal.rows ∧ row.claim.operationId = operationId ∧ row.resolution = none := by
  simp [standing, mem_rows]

theorem TakeoverJournal.latest_some (found : journal.latest operationId = some row) :
    row ∈ journal.standing operationId ∧ ∀ other ∈ journal.standing operationId,
      other.claim.new.leaseFence ≤ row.claim.new.leaseFence := by
  unfold latest at found
  exact ⟨argmax_mem found, fun other member => le_of_mem_argmax
    (f := fun row : TakeoverRow => row.claim.new.leaseFence) member found⟩

theorem TakeoverJournal.latest_none (missing : journal.latest operationId = none) :
    journal.standing operationId = [] :=
  argmax_eq_none.mp missing

/-- What is read of the latest row, if there is one. -/
inductive ReadsLatest (journal : TakeoverJournal) (phase : TakeoverPhase)
    (operationId : Identifier) (original : ControlDecision) :
    ControlLeaseBinding → Option TakeoverClaim → Prop
  | first (missing : journal.latest operationId = none) :
      ReadsLatest journal phase operationId original original.lease none
  | pending (row : TakeoverRow) (found : journal.latest operationId = some row)
      (same : row.claim.phase = phase) :
      ReadsLatest journal phase operationId original row.claim.previous (some row.claim)
  | follows (row : TakeoverRow) (found : journal.latest operationId = some row)
      (same : row.claim.phase = phase) (acknowledged : row.kernelReceipt.isSome = true) :
      ReadsLatest journal phase operationId original row.claim.new none

theorem readTakeover_eq_ok {phase : TakeoverPhase} {takeoverId : Identifier} {lease : LeaseClaim}
    {reading : TakeoverJournal.Reading}
    (read : journal.readTakeover phase operationId takeoverId lease = .ok reading) :
    ∃ intent, journal.originals.find? (phase, operationId) = some intent ∧
      reading.original = intent.decision ∧ intent.decision.runId ∉ journal.cancelled ∧
      reading.previous.leaseFence < lease.binding.leaseFence ∧
      ReadsLatest journal phase operationId intent.decision reading.previous reading.pending := by
  simp only [TakeoverJournal.readTakeover, bind_eq_ok, present_eq_ok, check_eq_ok] at read
  obtain ⟨intent, found, _, uncancelled, ⟨previous, pending⟩, latest, _, -, _, above, done⟩ := read
  cases done
  refine ⟨intent, found, rfl, uncancelled, above.1, ?_⟩
  unfold TakeoverJournal.previousLease at latest
  split at latest
  · rename_i missing
    cases latest
    exact .first missing
  · rename_i row stored
    obtain ⟨_, same, done⟩ := bind_eq_ok.mp latest
    rw [check_eq_ok] at same
    split at done
    · cases done
      exact .pending row stored same
    · rename_i settled
      cases done
      refine .follows row stored same ?_
      cases known : row.kernelReceipt with
      | none => exact absurd (.inl (by rw [known]; rfl)) settled
      | some receipt => rfl

end Reading

/-! ### Takeovers in both stores -/

/-- A takeover follows the original lease of its operation, or an acknowledged one. -/
structure TakeoverRow.Follows (journal : TakeoverJournal) (row : TakeoverRow)
    (intent : OriginalIntent) : Prop where
  decided : journal.originals.find? (row.claim.phase, row.claim.operationId) = some intent
  above : intent.decision.lease.leaseFence ≤ row.claim.previous.leaseFence
  higher : row.claim.previous.leaseFence < row.claim.new.leaseFence
  linked : row.claim.previous = intent.decision.lease ∨ ∃ other ∈ journal.rows,
    other.claim.operationId = row.claim.operationId ∧ other.kernelReceipt.isSome = true ∧
      other.claim.new = row.claim.previous

/-- What holds of the takeovers of both stores in every state. -/
structure TakeoversSound (system : LeaseSystem) : Prop where
  chained : system.kernel.Chained
  recorded : ∀ receipt ∈ system.kernel.takeovers, ∃ row ∈ system.journal.rows,
    row.claim = receipt.claim
  answers : ∀ receipt ∈ system.receipts, receipt ∈ system.kernel.takeovers
  acknowledged : ∀ row ∈ system.journal.rows, ∀ receipt ∈ row.kernelReceipt,
    receipt ∈ system.kernel.takeovers ∧ receipt.claim = row.claim ∧ row.resolution = none
  follows : ∀ row ∈ system.journal.rows, ∃ intent, row.Follows system.journal intent
  distinct : ∀ operationId, ∀ left ∈ system.journal.standing operationId,
    ∀ right ∈ system.journal.standing operationId,
      left.claim.new.leaseFence = right.claim.new.leaseFence → left = right

section Takeovers

variable {system : LeaseSystem} {journal : TakeoverJournal}

theorem TakeoversSound.rewrite (sound : TakeoversSound system) {row : TakeoverRow}
    (later : TakeoverRow) (stored : row ∈ system.journal.rows) (same : later.claim = row.claim)
    (stays : row.kernelReceipt.isSome = true → later.kernelReceipt.isSome = true)
    (stands : later.resolution = none → row.resolution = none)
    (acknowledged : ∀ receipt ∈ later.kernelReceipt, receipt ∈ system.kernel.takeovers ∧
      receipt.claim = later.claim ∧ later.resolution = none) :
    TakeoversSound
      { system with journal := { system.journal with rows := system.journal.rows.put later } } := by
  have own : later.takeoverId = row.takeoverId := congrArg TakeoverClaim.takeoverId same
  -- Every row has a successor with the same claim, and every successor comes from one.
  have forward : ∀ old ∈ system.journal.rows, ∃ next ∈ system.journal.rows.put later,
      next.claim = old.claim ∧ (old.kernelReceipt.isSome = true →
        next.kernelReceipt.isSome = true) := by
    intro old member
    by_cases key : old.takeoverId = later.takeoverId
    · cases eq_of_key_eq member stored (key.trans own)
      exact ⟨later, mem_put.mpr (.inl rfl), same, stays⟩
    · exact ⟨old, mem_put.mpr (.inr ⟨member, key⟩), rfl, id⟩
  have backward : ∀ next ∈ system.journal.rows.put later, ∃ old ∈ system.journal.rows,
      next.claim = old.claim ∧ (next.resolution = none → old.resolution = none) := by
    intro next member
    rcases mem_put.mp member with rfl | ⟨old, -⟩
    · exact ⟨row, stored, same, stands⟩
    · exact ⟨next, old, rfl, id⟩
  refine ⟨sound.chained, fun receipt member => ?_, sound.answers, fun next member => ?_,
    fun next member => ?_, fun operationId left leftStands right rightStands fence => ?_⟩
  · obtain ⟨old, known, claimed⟩ := sound.recorded receipt member
    obtain ⟨next, present, kept, -⟩ := forward old known
    exact ⟨next, present, kept.trans claimed⟩
  · rcases mem_put.mp member with rfl | ⟨old, -⟩
    · exact acknowledged
    · exact sound.acknowledged next old
  · obtain ⟨old, known, claimed, -⟩ := backward next member
    obtain ⟨intent, follows⟩ := sound.follows old known
    refine ⟨intent, ?_, ?_, ?_, ?_⟩
    · rw [claimed]
      exact follows.decided
    · rw [claimed]
      exact follows.above
    · rw [claimed]
      exact follows.higher
    · rw [claimed]
      refine follows.linked.imp_right ?_
      rintro ⟨other, present, operation, receipt, linked⟩
      obtain ⟨successor, there, kept, still⟩ := forward other present
      rw [← kept] at operation linked
      exact ⟨successor, there, operation, still receipt, linked⟩
  · rw [TakeoverJournal.mem_standing] at leftStands rightStands
    obtain ⟨leftOld, leftKnown, leftClaim, leftOpen⟩ := backward left leftStands.1
    obtain ⟨rightOld, rightKnown, rightClaim, rightOpen⟩ := backward right rightStands.1
    have twin : leftOld = rightOld := by
      refine sound.distinct operationId leftOld ?_ rightOld ?_ ?_
      · exact TakeoverJournal.mem_standing.mpr
          ⟨leftKnown, leftClaim ▸ leftStands.2.1, leftOpen leftStands.2.2⟩
      · exact TakeoverJournal.mem_standing.mpr
          ⟨rightKnown, rightClaim ▸ rightStands.2.1, rightOpen rightStands.2.2⟩
      · rw [← leftClaim, ← rightClaim]
        exact fence
    refine eq_of_key_eq leftStands.1 rightStands.1 ?_
    show left.claim.takeoverId = right.claim.takeoverId
    rw [leftClaim, rightClaim, twin]

theorem TakeoversSound.record (sound : TakeoversSound system) {phase : TakeoverPhase}
    {takeoverId : Identifier} {observed : TakeoverJournal.Observed} {lease : LeaseClaim}
    (accepted : system.journal.recordTakeover phase takeoverId observed lease = .ok journal) :
    TakeoversSound { system with journal } := by
  simp only [TakeoverJournal.recordTakeover, bind_eq_ok, check_eq_ok] at accepted
  obtain ⟨reading, read, _, unpending, _, fresh, done⟩ := accepted
  cases done
  obtain ⟨intent, decided, original, -, above, reads⟩ := readTakeover_eq_ok read
  rw [isNone_iff_eq_none] at unpending fresh
  generalize claimed : TakeoverJournal.newClaim phase takeoverId reading observed lease = claim
  have claimPhase : claim.phase = phase := by rw [← claimed]; rfl
  have claimOperation : claim.operationId = lease.operationId := by rw [← claimed]; rfl
  have claimPrevious : claim.previous = reading.previous := by rw [← claimed]; rfl
  have claimNew : claim.new = lease.binding := by rw [← claimed]; rfl
  have claimId : claim.takeoverId = takeoverId := by rw [← claimed]; rfl
  let row : TakeoverRow := ⟨claim, none, none⟩
  have unused : system.journal.rows.find? row.takeoverId = none := by
    show system.journal.rows.find? claim.takeoverId = none
    rw [claimId]
    exact fresh
  have survives : ∀ old ∈ system.journal.rows, old ∈ system.journal.rows.put row :=
    fun old member => mem_put_of_fresh _ unused member
  -- What stands of the operation is below the new fence.
  have below : intent.decision.lease.leaseFence ≤ reading.previous.leaseFence ∧
      (∀ other ∈ system.journal.standing lease.operationId,
        other.claim.new.leaseFence < lease.binding.leaseFence) ∧
      (reading.previous = intent.decision.lease ∨ ∃ other ∈ system.journal.rows,
        other.claim.operationId = lease.operationId ∧ other.kernelReceipt.isSome = true ∧
          other.claim.new = reading.previous) := by
    rw [unpending] at reads
    generalize reading.previous = previous at reads above
    cases reads with
    | first missing =>
      refine ⟨le_rfl, fun other member => ?_, Or.inl rfl⟩
      rw [TakeoverJournal.latest_none missing] at member
      cases member
    | follows latest found same acknowledged =>
      obtain ⟨stands, highest⟩ := TakeoverJournal.latest_some found
      obtain ⟨member, operation, -⟩ := TakeoverJournal.mem_standing.mp stands
      obtain ⟨first, followed⟩ := sound.follows latest member
      have decidedFirst := followed.decided
      rw [same, operation, decided] at decidedFirst
      cases decidedFirst
      exact ⟨followed.above.trans followed.higher.le,
        fun other present => (highest other present).trans_lt above,
        Or.inr ⟨latest, member, operation, acknowledged, rfl⟩⟩
  refine ⟨sound.chained, fun receipt member => ?_, sound.answers, fun next member => ?_,
    fun next member => ?_, fun operationId left leftStands right rightStands fence => ?_⟩
  · obtain ⟨old, known, same⟩ := sound.recorded receipt member
    exact ⟨old, survives old known, same⟩
  · rcases mem_put.mp member with rfl | ⟨old, -⟩
    · rintro _ ⟨⟩
    · exact sound.acknowledged next old
  · rcases mem_put.mp member with rfl | ⟨old, -⟩
    · refine ⟨intent, ?_, ?_, ?_, ?_⟩ <;> dsimp only
      · rw [claimPhase, claimOperation]
        exact decided
      · rw [claimPrevious]
        exact below.1
      · rw [claimPrevious, claimNew]
        exact above
      · rw [claimPrevious, claimOperation]
        refine below.2.2.imp_right ?_
        rintro ⟨other, present, rest⟩
        exact ⟨other, survives other present, rest⟩
    · obtain ⟨first, followed⟩ := sound.follows next old
      refine ⟨first, followed.decided, followed.above, followed.higher,
        followed.linked.imp_right ?_⟩
      rintro ⟨other, present, rest⟩
      exact ⟨other, survives other present, rest⟩
  · rw [TakeoverJournal.mem_standing] at leftStands rightStands
    have apart : ∀ other ∈ system.journal.rows, other.claim.operationId = operationId →
        other.resolution = none → row.claim.operationId = operationId →
        other.claim.new.leaseFence ≠ row.claim.new.leaseFence := by
      intro other member operation stands own
      refine ne_of_lt ?_
      show _ < claim.new.leaseFence
      rw [claimNew]
      refine below.2.1 other (TakeoverJournal.mem_standing.mpr ⟨member, ?_, stands⟩)
      exact operation.trans (own.symm.trans claimOperation)
    obtain ⟨leftMember, leftOwn, leftOpen⟩ := leftStands
    obtain ⟨rightMember, rightOwn, rightOpen⟩ := rightStands
    rcases mem_put.mp leftMember with rfl | ⟨leftOld, -⟩
    · rcases mem_put.mp rightMember with rfl | ⟨rightOld, -⟩
      · rfl
      · exact absurd fence.symm (apart right rightOld rightOwn rightOpen leftOwn)
    · rcases mem_put.mp rightMember with rfl | ⟨rightOld, -⟩
      · exact absurd fence (apart left leftOld leftOwn leftOpen rightOwn)
      · exact sound.distinct operationId left
          (TakeoverJournal.mem_standing.mpr ⟨leftOld, leftOwn, leftOpen⟩) right
          (TakeoverJournal.mem_standing.mpr ⟨rightOld, rightOwn, rightOpen⟩) fence

variable {phase : TakeoverPhase} {takeoverId : Identifier} {observedAt : Timestamp}

variable {pending : TakeoverClaim} {answer : Option TakeoverReceipt} {lease : LeaseClaim}

theorem settleTakeover_eq_ok {before : TakeoverJournal}
    (accepted : before.settleTakeover phase takeoverId pending answer observedAt lease =
      .ok journal) :
    ∃ row, before.latest pending.operationId = some row ∧ row.claim = pending ∧
      ((row.kernelReceipt = none ∧ ∃ absence, journal =
          { before with rows := before.rows.put { row with resolution := some absence } }) ∨
        ∃ receipt, answer = some receipt ∧ receipt.claim = pending ∧ journal =
          { before with rows := before.rows.put { row with kernelReceipt := some receipt } }) := by
  simp only [TakeoverJournal.settleTakeover, bind_eq_ok, present_eq_ok, check_eq_ok]
    at accepted
  obtain ⟨_, claims, reading, read, _, expected, row, found, _, evidence, done⟩ := accepted
  obtain ⟨intent, -, -, -, -, reads⟩ := readTakeover_eq_ok read
  rw [expected] at reads
  have latest : before.latest lease.operationId = some row ∧ row.claim = pending := by
    generalize reading.previous = previous at reads
    cases reads with
    | pending latest known _ =>
      obtain ⟨stands, -⟩ := TakeoverJournal.latest_some known
      have member := (TakeoverJournal.mem_standing.mp stands).1
      cases eq_of_key_eq member (mem_of_find? found) (key_of_find? found).symm
      exact ⟨known, rfl⟩
  have operation : row.claim.operationId = lease.operationId :=
    (TakeoverJournal.mem_standing.mp (TakeoverJournal.latest_some latest.1).1).2.1
  refine ⟨row, ?_, latest.2, ?_⟩
  · rw [← latest.2, operation]
    exact latest.1
  cases answer with
  | none =>
    cases done
    refine Or.inl ⟨?_, _, rfl⟩
    cases known : row.kernelReceipt with
    | none => rfl
    | some receipt => cases evidence.2 receipt known
  | some receipt =>
    cases done
    exact .inr ⟨receipt, rfl, claims receipt rfl, rfl⟩

theorem TakeoversSound.settle (sound : TakeoversSound system)
    (answered : ∀ receipt ∈ answer, receipt ∈ system.receipts)
    (accepted : system.journal.settleTakeover phase takeoverId pending answer observedAt lease =
      .ok journal) : TakeoversSound { system with journal } := by
  obtain ⟨row, latest, claimed, absent | ⟨receipt, given, same, rfl⟩⟩ :=
    settleTakeover_eq_ok accepted
  · obtain ⟨unanswered, absence, rfl⟩ := absent
    have stored := (TakeoverJournal.mem_standing.mp (TakeoverJournal.latest_some latest).1).1
    refine sound.rewrite { row with resolution := some absence } stored rfl id nofun ?_
    intro receipt known
    rw [mem_def, unanswered] at known
    cases known
  · have stands := TakeoverJournal.mem_standing.mp (TakeoverJournal.latest_some latest).1
    refine sound.rewrite { row with kernelReceipt := some receipt } stands.1 rfl (fun _ => rfl) id ?_
    rintro _ ⟨⟩
    exact ⟨sound.answers receipt (answered receipt given), same.trans claimed.symm, stands.2.2⟩

theorem TakeoversSound.written (sound : TakeoversSound system) {looks : List LeaseLook}
    (write : JournalWrite system looks journal) : TakeoversSound { system with journal } := by
  cases write with
  | elsewhere => exact sound
  | decide intent fresh =>
    refine ⟨sound.chained, sound.recorded, sound.answers, sound.acknowledged, fun row member => ?_,
      sound.distinct⟩
    obtain ⟨first, followed⟩ := sound.follows row member
    refine ⟨first, ?_, followed.above, followed.higher, followed.linked⟩
    have apart : (row.claim.phase, row.claim.operationId) ≠ intent.key := by
      intro same
      rw [← same, followed.decided] at fresh
      cases fresh
    show (system.journal.originals.put intent).find? _ = _
    rw [find?_put_other _ apart]
    exact followed.decided
  | cancel runId =>
    refine ⟨sound.chained, sound.recorded, sound.answers, sound.acknowledged, fun row member => ?_,
      sound.distinct⟩
    obtain ⟨first, followed⟩ := sound.follows row member
    exact ⟨first, followed.decided, followed.above, followed.higher, followed.linked⟩
  | record phase takeoverId observed checked accepted => exact sound.record accepted
  | settle phase takeoverId pending answer observedAt checked answered absent accepted =>
    exact sound.settle answered accepted

theorem TakeoversSound.taken (sound : TakeoversSound system) {row : TakeoverRow}
    {surroundings : TakeoverSurroundings} {receipt : TakeoverReceipt} {kernel : TakeoverKernel}
    (recorded : row ∈ system.journal.rows)
    (taken : system.kernel.takeoverControlLease row.claim surroundings = .ok (receipt, kernel)) :
    TakeoversSound { system with kernel, receipts := receipt :: system.receipts } := by
  rcases TakeoverKernel.takeoverControlLease_eq_ok taken with ⟨rfl, known, -⟩ | ⟨rfl, claimed, records⟩
  · refine ⟨sound.chained, sound.recorded, fun other member => ?_, sound.acknowledged,
      sound.follows, sound.distinct⟩
    rcases mem_cons.mp member with rfl | old
    · exact known
    · exact sound.answers other old
  · have chained := sound.chained.record receipt (claimed.symm ▸ records)
    refine ⟨chained, fun other member => ?_, fun other member => ?_, fun other member answer known => ?_,
      sound.follows, sound.distinct⟩
    · rcases mem_append.mp member with old | new
      · exact sound.recorded other old
      · rw [mem_singleton.mp new]
        exact ⟨row, recorded, claimed.symm⟩
    · rcases mem_cons.mp member with rfl | old
      · exact mem_append_right _ (mem_singleton_self _)
      · exact mem_append_left _ (sound.answers other old)
    · obtain ⟨member, rest⟩ := sound.acknowledged other member answer known
      exact ⟨mem_append_left _ member, rest⟩

end Takeovers

/-! ### Runs -/

section Runs

variable {condition : RollBackCondition} {system next : LeaseSystem}

theorem LeaseStep.takeovers (step : LeaseStep condition system next)
    (sound : TakeoversSound system) : TakeoversSound next := by
  cases step with
  | observe now =>
    exact ⟨sound.chained, sound.recorded, sound.answers, sound.acknowledged, sound.follows,
      sound.distinct⟩
  | commit accepted written =>
    have kept := sound.written written
    exact ⟨kept.chained, kept.recorded, kept.answers, kept.acknowledged, kept.follows,
      kept.distinct⟩
  | rollBack looks permitted =>
    exact ⟨sound.chained, sound.recorded, sound.answers, sound.acknowledged, sound.follows,
      sound.distinct⟩
  | take row surroundings recorded taken => exact sound.taken recorded taken
  | inspect claim current inspected =>
    refine ⟨sound.chained, sound.recorded, fun other member => ?_, sound.acknowledged,
      sound.follows, sound.distinct⟩
    rcases mem_cons.mp member with rfl | old
    · simp only [TakeoverKernel.inspectControlTakeover, bind_eq_ok] at inspected
      obtain ⟨_, -, _, -, found⟩ := inspected
      split at found
      · cases found
      · rename_i known stored
        obtain ⟨_, -, done⟩ := bind_eq_ok.mp found
        cases done
        exact mem_of_find?_eq_some stored
    · exact sound.answers other old
  | missing claim current inspected =>
    exact ⟨sound.chained, sound.recorded, sound.answers, sound.acknowledged, sound.follows,
      sound.distinct⟩
  | kernel operation environment watermark =>
    exact ⟨⟨sound.chained.higher, sound.chained.linked, sound.chained.latest,
      sound.chained.identities⟩, sound.recorded, sound.answers, sound.acknowledged, sound.follows,
      sound.distinct⟩

theorem LeaseStep.leases (step : LeaseStep ExpiriesCommitted system next)
    (kept : LeasesKept system.book system.seen) : LeasesKept next.book next.seen := by
  cases step with
  | observe now => exact kept.observe now
  | commit accepted written => exact kept.commit _ accepted
  | rollBack looks permitted => exact kept.rollBack looks permitted
  | take row surroundings recorded taken => exact kept
  | inspect claim current inspected => exact kept
  | missing claim current inspected => exact kept
  | kernel operation environment watermark => exact kept

theorem leaseSystem_takeovers (reachable : (leaseSystem condition).Reachable system) :
    TakeoversSound system := by
  refine reachable.invariant TakeoversSound ?_ fun _ _ _ sound step => LeaseStep.takeovers step sound
  rintro _ ⟨storeId, rfl⟩
  have chained : TakeoverKernel.Chained ⟨.initial storeId, []⟩ := by
    refine ⟨fun _ member => (nomatch member), fun _ => .nil, fun _ => ?_, .nil⟩
    unfold TakeoverKernel.chain HostGates.latestTakeover?
    rfl
  exact ⟨chained, fun _ member => (nomatch member), fun _ member => (nomatch member),
    fun _ member => (nomatch member), fun _ member => (nomatch member),
    fun _ _ member => (nomatch member)⟩

theorem leaseSystem_leases (reachable : (leaseSystem ExpiriesCommitted).Reachable system) :
    LeasesKept system.book system.seen := by
  refine reachable.invariant (fun system => LeasesKept system.book system.seen) ?_
    fun _ _ _ kept step => LeaseStep.leases step kept
  rintro _ ⟨storeId, rfl⟩
  exact ⟨fun _ member => (nomatch member), fun _ member => (nomatch member), .nil, .nil⟩

/-! ### The law of leases and takeovers -/

/-- What holds of leases and takeovers in a state. -/
structure LeaseSystem.Lawful (system : LeaseSystem) : Prop where
  /-- Accepted fences of a Run do not go down, and equal ones are of one lease. -/
  ordered : system.seen.Pairwise LeaseEntry.Before
  /-- A lease that was seen at or past its expiry was not accepted later. -/
  sticky : system.seen.Pairwise LeaseEntry.Sticks
  /-- The takeovers of an operation have growing fences, and each follows the one before it. -/
  increasing : ∀ operationId, (system.kernel.chain operationId).Pairwise fun earlier later =>
    earlier.claim.new.leaseFence < later.claim.new.leaseFence
  linked : ∀ operationId, (system.kernel.chain operationId).IsChain fun earlier later =>
    later.claim.previous = earlier.claim.new ∧ later.claim.phase = earlier.claim.phase
  /-- The last takeover of an operation binds it. -/
  effective : ∀ operationId original, ∀ last ∈ (system.kernel.chain operationId).getLast?,
    system.kernel.gates.effectiveBinding last.claim.phase operationId original = .ok last.claim.new
  /-- A takeover leaves receipts and budgets alone; it repeats a recorded one, or it is recorded for
  a Run that is not cancelled. -/
  takes : ∀ claim surroundings receipt kernel,
    system.kernel.takeoverControlLease claim surroundings = .ok (receipt, kernel) →
      kernel.database = system.kernel.database ∧
        ((kernel.takeovers = system.kernel.takeovers ∧ receipt ∈ system.kernel.takeovers ∧
            receipt.claim.takeoverId = claim.takeoverId) ∨
          (kernel.takeovers = system.kernel.takeovers ++ [receipt] ∧ receipt.claim = claim ∧
            ∀ pause ∈ system.kernel.database.pauseReceipts.rows, pause.runId = claim.runId →
              pause.isCancellationFence = false))
  /-- One identity has one receipt. -/
  replays : ∀ left ∈ system.kernel.takeovers, ∀ right ∈ system.kernel.takeovers,
    left.claim.takeoverId = right.claim.takeoverId → left = right
  /-- When all takeovers of an operation are acknowledged, both stores bind it to one lease. -/
  acknowledged : ∀ operationId original effective,
    (∀ receipt ∈ system.kernel.chain operationId,
      ∃ row ∈ system.journal.rows, row.kernelReceipt = some receipt) →
    system.journal.effectiveLease operationId original = .ok effective →
    ∀ phase, (∀ receipt ∈ system.kernel.chain operationId, receipt.claim.phase = phase) →
      system.kernel.gates.effectiveBinding phase operationId original = .ok effective

/-- A step that acknowledges a takeover leaves both stores with its lease for the operation. -/
def LeaseSystem.Acknowledges (system next : LeaseSystem) : Prop :=
  ∀ row ∈ next.journal.rows, row.kernelReceipt.isSome = true →
    (∀ old ∈ system.journal.rows, old.claim = row.claim → old.kernelReceipt = none) →
    ∀ original, next.journal.effectiveLease row.claim.operationId original = .ok row.claim.new ∧
        next.kernel.gates.effectiveBinding row.claim.phase row.claim.operationId original =
          .ok row.claim.new

section Law

section

variable {row : TakeoverRow} (sound : TakeoversSound system) (stored : row ∈ system.journal.rows)

include sound stored

theorem TakeoversSound.unfollowed {receipt : TakeoverReceipt}
    (known : receipt ∈ system.kernel.takeovers) (same : receipt.claim = row.claim)
    (unanswered : ∀ old ∈ system.journal.rows, old.claim = row.claim → old.kernelReceipt = none) :
    receipt ∈ (system.kernel.chain row.claim.operationId).getLast? := by
  have member : receipt ∈ system.kernel.chain row.claim.operationId :=
    TakeoverKernel.mem_chain.mpr ⟨known, congrArg TakeoverClaim.operationId same⟩
  rcases sound.chained.successor member with last | ⟨later, follower, linked, phase⟩
  · exact last
  exfalso
  obtain ⟨laterKnown, laterOperation⟩ := TakeoverKernel.mem_chain.mp follower
  obtain ⟨next, present, claimed⟩ := sound.recorded later laterKnown
  obtain ⟨intent, follows⟩ := sound.follows next present
  obtain ⟨first, followed⟩ := sound.follows row stored
  have decided := follows.decided
  rw [claimed, phase, laterOperation, same, followed.decided] at decided
  cases decided
  rcases follows.linked with original | ⟨other, there, operation, answered, other_⟩
  · rw [claimed, linked, same] at original
    have above := followed.above
    have higher := followed.higher
    rw [original] at higher
    omega
  · obtain ⟨answer, given⟩ := isSome_iff_exists.mp answered
    obtain ⟨recorded, own, -⟩ := sound.acknowledged other there answer given
    have twin : answer = receipt := by
      refine sound.chained.eq_of_fence (TakeoverKernel.mem_chain.mpr ⟨recorded, ?_⟩) member ?_
      · rw [own, operation, claimed, laterOperation]
      · rw [own, other_, claimed, linked]
    have unheard := unanswered other there (own.symm.trans (twin ▸ same))
    rw [given] at unheard
    cases unheard

theorem TakeoversSound.effective (stands : row.resolution = none)
    (answered : row.kernelReceipt.isSome = true)
    (highest : ∀ other ∈ system.journal.standing row.claim.operationId,
      other.claim.new.leaseFence ≤ row.claim.new.leaseFence) (original : ControlLeaseBinding) :
    system.journal.effectiveLease row.claim.operationId original = .ok row.claim.new := by
  have member : row ∈ system.journal.standing row.claim.operationId :=
    TakeoverJournal.mem_standing.mpr ⟨stored, rfl, stands⟩
  unfold TakeoverJournal.effectiveLease
  cases found : system.journal.latest row.claim.operationId with
  | none =>
    rw [TakeoverJournal.latest_none found] at member
    cases member
  | some latest =>
    obtain ⟨present, top⟩ := TakeoverJournal.latest_some found
    cases sound.distinct _ latest present row member
      (le_antisymm (highest latest present) (top row member))
    dsimp only
    rw [check, if_pos answered]
    rfl

end

theorem LeaseStep.acknowledges (step : LeaseStep condition system next)
    (sound : TakeoversSound system) : system.Acknowledges next := by
  have after := step.takeovers sound
  intro row member answered fresh original
  have unchanged : row ∉ system.journal.rows := fun old => by
    rw [fresh row old rfl] at answered
    cases answered
  cases step with
  | observe now => exact absurd member unchanged
  | rollBack looks permitted => exact absurd member unchanged
  | take taken surroundings recorded done => exact absurd member unchanged
  | inspect claim current inspected => exact absurd member unchanged
  | missing claim current inspected => exact absurd member unchanged
  | kernel operation environment watermark => exact absurd member unchanged
  | commit accepted written =>
    cases written with
    | elsewhere => exact absurd member unchanged
    | decide intent free => exact absurd member unchanged
    | cancel runId => exact absurd member unchanged
    | record phase takeoverId observed checked recorded =>
      simp only [TakeoverJournal.recordTakeover, bind_eq_ok] at recorded
      obtain ⟨_, -, _, -, _, -, done⟩ := recorded
      cases done
      rcases mem_put.mp member with rfl | ⟨old, -⟩
      · cases answered
      · exact absurd old unchanged
    | settle phase takeoverId pending answer observedAt checked given absent settled =>
      obtain ⟨stored, latest, claimed, ⟨unanswered, absence, rfl⟩ | ⟨receipt, known, same, rfl⟩⟩ :=
        settleTakeover_eq_ok settled
      · rcases mem_put.mp member with rfl | ⟨old, -⟩
        · rw [unanswered] at answered
          cases answered
        · exact absurd old unchanged
      · obtain ⟨standing, top⟩ := TakeoverJournal.latest_some latest
        obtain ⟨present, -, stands⟩ := TakeoverJournal.mem_standing.mp standing
        rcases mem_put.mp member with rfl | ⟨old, -⟩
        swap
        · exact absurd old unchanged
        have recorded := sound.answers receipt (given receipt known)
        have last := sound.unfollowed present recorded (same.trans claimed.symm) fresh
        refine ⟨after.effective member stands answered ?_ original, ?_⟩
        · intro other there
          obtain ⟨inside, own, open_⟩ := TakeoverJournal.mem_standing.mp there
          rcases mem_put.mp inside with rfl | ⟨old, -⟩
          · exact le_rfl
          · refine top other (TakeoverJournal.mem_standing.mpr ⟨old, ?_, open_⟩)
            rw [own, ← claimed]
        · have bound := (sound.chained.effective original).1 receipt last
          rw [same.trans claimed.symm] at bound
          exact bound

theorem TakeoversSound.agree (sound : TakeoversSound system) {operationId : Identifier}
    {original effective : ControlLeaseBinding} {phase : TakeoverPhase}
    (answered : ∀ receipt ∈ system.kernel.chain operationId,
      ∃ row ∈ system.journal.rows, row.kernelReceipt = some receipt)
    (bound : system.journal.effectiveLease operationId original = .ok effective)
    (phases : ∀ receipt ∈ system.kernel.chain operationId, receipt.claim.phase = phase) :
    system.kernel.gates.effectiveBinding phase operationId original = .ok effective := by
  -- An acknowledged takeover stands.
  have stands : ∀ receipt ∈ system.kernel.chain operationId,
      ∃ row ∈ system.journal.standing operationId, row.claim = receipt.claim := by
    intro receipt member
    obtain ⟨row, stored, known⟩ := answered receipt member
    obtain ⟨-, same, open_⟩ := sound.acknowledged row stored receipt known
    refine ⟨row, TakeoverJournal.mem_standing.mpr ⟨stored, ?_, open_⟩, same.symm⟩
    rw [← same]
    exact (TakeoverKernel.mem_chain.mp member).2
  unfold TakeoverJournal.effectiveLease at bound
  cases found : system.journal.latest operationId with
  | none =>
    rw [found] at bound
    cases bound
    refine (sound.chained.effective original).2 (eq_nil_iff_forall_not_mem.mpr ?_) phase
    intro receipt member
    obtain ⟨row, standing, -⟩ := stands receipt member
    rw [TakeoverJournal.latest_none found] at standing
    cases standing
  | some row =>
    rw [found] at bound
    simp only [bind_eq_ok, check_eq_ok] at bound
    obtain ⟨_, given, done⟩ := bound
    cases done
    obtain ⟨standing, top⟩ := TakeoverJournal.latest_some found
    obtain ⟨stored, operation, -⟩ := TakeoverJournal.mem_standing.mp standing
    obtain ⟨receipt, known⟩ := isSome_iff_exists.mp given
    obtain ⟨recorded, same, -⟩ := sound.acknowledged row stored receipt known
    have member : receipt ∈ system.kernel.chain operationId :=
      TakeoverKernel.mem_chain.mpr ⟨recorded, by rw [same, operation]⟩
    rcases sound.chained.successor member with last | ⟨later, follower, linked, -⟩
    · have bound := (sound.chained.effective original).1 receipt last
      rw [phases receipt member, same] at bound
      exact bound
    · obtain ⟨next, present, claimed⟩ := stands later follower
      have higher := sound.chained.higher later (TakeoverKernel.mem_chain.mp follower).1
      have below := top next present
      rw [claimed] at below
      rw [linked, same] at higher
      omega

theorem LeaseStep.keeps_takeovers (step : LeaseStep condition system next) :
    system.kernel.takeovers <+: next.kernel.takeovers := by
  cases step with
  | take row surroundings recorded taken =>
    rcases TakeoverKernel.takeoverControlLease_eq_ok taken with ⟨rfl, -, -⟩ | ⟨rfl, -, -⟩
    · exact prefix_rfl
    · exact prefix_append _ _
  | observe now => exact prefix_rfl
  | commit accepted written => exact prefix_rfl
  | rollBack looks permitted => exact prefix_rfl
  | inspect claim current inspected => exact prefix_rfl
  | missing claim current inspected => exact prefix_rfl
  | kernel operation environment watermark => exact prefix_rfl

/-- In every run in which seen expiries are committed, leases and takeovers are lawful,
acknowledgements leave one lease in both stores, and receipts stay. -/
theorem control_leases_lawful (reachable : (leaseSystem ExpiriesCommitted).Reachable system) :
    system.Lawful ∧
      (∀ next, LeaseStep ExpiriesCommitted system next → system.Acknowledges next) ∧
      ∀ last, ReflTransGen (LeaseStep ExpiriesCommitted) system last →
        system.kernel.takeovers <+: last.kernel.takeovers := by
  have sound := leaseSystem_takeovers reachable
  have kept := leaseSystem_leases reachable
  refine ⟨⟨kept.ordered, kept.sticky, sound.chained.increasing, sound.chained.linked,
      fun operationId original => (sound.chained.effective original).1, ?_, ?_, ?_⟩,
    fun next step => step.acknowledges sound, fun last run => ?_⟩
  · intro claim surroundings receipt kernel taken
    rcases TakeoverKernel.takeoverControlLease_eq_ok taken with ⟨rfl, known, same⟩ | ⟨rfl, claimed, records⟩
    · have identity : receipt.claim.unexpiring.takeoverId = claim.unexpiring.takeoverId :=
        congrArg TakeoverClaim.takeoverId same
      exact ⟨rfl, Or.inl ⟨rfl, known, identity⟩⟩
    · exact ⟨rfl, Or.inr ⟨rfl, claimed, records.open_⟩⟩
  · intro left leftKnown right rightKnown same
    have distinct : (system.kernel.takeovers.map fun receipt => receipt.claim.takeoverId).Nodup :=
      pairwise_map.mpr sound.chained.identities
    exact inj_on_of_nodup_map distinct leftKnown rightKnown same
  · intro operationId original effective answered bound phase phases
    exact sound.agree answered bound phases
  · induction run with
    | refl => exact prefix_rfl
    | tail before step hypothesis =>
      exact hypothesis.trans step.keeps_takeovers

end Law

end Runs

/-! ### A lease that expires in a transaction -/

def sampleLeaseClaim : LeaseClaim where
  operationId := ExecutionKernel.sampleName
  runId := ExecutionKernel.sampleName
  kernelStoreId := ExecutionKernel.sampleName
  orchestrator := ⟨ExecutionKernel.sampleName, ExecutionKernel.sampleName⟩
  binding := ⟨ExecutionKernel.sampleName, 1⟩
  expiresAt := (10 : ℕ)
  held := true
  scope := "resume_cancel_revoke_through_commit"

def sampleLook (clock : Timestamp) : LeaseLook where
  answer := some sampleLeaseClaim
  expected := ⟨ExecutionKernel.sampleName, ExecutionKernel.sampleName, ExecutionKernel.sampleName,
    ⟨ExecutionKernel.sampleName, ExecutionKernel.sampleName⟩, none⟩
  clock

/-- What is observed at zero, and what is left when the lease is accepted at five. -/
def sampleBook : LeaseBook := observeControlClock 0 .empty

def sampleAccepted : LeaseBook := ((checkLeases [sampleLook (5 : ℕ)] sampleBook).toOption).getD .empty

theorem sampleLook_accepted : checkLeases [sampleLook 5] sampleBook = .ok sampleAccepted := by
  have passed : (checkLeases [sampleLook 5] sampleBook).isOk = true := by decide +kernel
  unfold sampleAccepted
  cases outcome : checkLeases [sampleLook 5] sampleBook with
  | error failure =>
    rw [outcome] at passed
    cases passed
  | ok book => rfl

def sampleLeases (book : LeaseBook) (seen : List LeaseEntry) : LeaseSystem :=
  ⟨book, .empty, ⟨.initial ExecutionKernel.sampleName, []⟩, [], [], seen⟩

theorem sampleLeases_reachable (condition : RollBackCondition) :
    (leaseSystem condition).Reachable (sampleLeases sampleBook []) := by
  have start : (leaseSystem condition).Reachable (sampleLeases .empty []) :=
    .start ⟨ExecutionKernel.sampleName, rfl⟩
  exact start.next (.observe 0)

/-- A lease is accepted, and a later transaction that has seen it is rolled back. -/
theorem control_leases_lawful_sample :
    LeaseSystem.Lawful (sampleLeases sampleAccepted
      (seenLeases true [sampleLook 5] sampleBook ++
        seenLeases false [sampleLook 6] sampleAccepted)) := by
  have committed := (sampleLeases_reachable ExpiriesCommitted).next
    (.commit sampleLook_accepted (.elsewhere [sampleLook 5]))
  refine (control_leases_lawful (committed.next (.rollBack [sampleLook 6] ?_))).1
  have unexpired : (seenLeases false [sampleLook 6] sampleAccepted).all (fun entry =>
      decide (entry.now < entry.claim.expiresAt)) = true := by decide +kernel
  intro entry member expired
  exact absurd (of_decide_eq_true (all_eq_true.mp unexpired entry member)) (not_lt.mpr expired)

/-- A transaction sees that the lease has expired and is rolled back; the clock is set back, and
the lease is accepted. -/
theorem expired_lease_accepted :
    ∃ system, (leaseSystem fun _ _ => True).Reachable system ∧ ¬ system.Lawful := by
  have rolledBack := (sampleLeases_reachable fun _ _ => True).next
    (.rollBack [sampleLook 10] trivial)
  have committed := rolledBack.next (.commit sampleLook_accepted (.elsewhere [sampleLook 5]))
  refine ⟨_, committed, fun lawful => ?_⟩
  have unsticky : ¬ (seenLeases false [sampleLook 10] sampleBook ++
      seenLeases true [sampleLook 5] sampleBook).Pairwise LeaseEntry.Sticks := by decide +kernel
  exact unsticky lawful.sticky

end DispatcherSdk.Orchestrator
