/-
This file proves that the two stores of a revision's content agree on their pages.

In each store the pages of a stream follow each other from the first one, and the flag of a page
says whether the bytes so far are all of them. The Orchestrator goes on only from a page that
has a receipt, and a receipt is in the Kernel with the page it was given for.
-/

import DispatcherSdk.ExecutionKernel.Base
import DispatcherSdk.Orchestrator.ProjectionStorage
import DispatcherSdk.Orchestrator.Reducer

namespace DispatcherSdk.Orchestrator

open Library Library.Checked Table
open ExecutionKernel (Identifier Timestamp KernelError maxSqliteInteger)

/-! ### Pages -/

inductive ContentKind where
  | revision
  | sourceApplicationState
  | targetApplicationState
  deriving DecidableEq

/-- What all pages of a stream have in common. -/
structure ContentTerms where
  operationId : Identifier
  decisionId : Identifier
  barrierOperationId : Identifier
  runId : Identifier
  kernelStoreId : Identifier
  orchestratorStoreId : Identifier
  orchestratorIncarnation : Identifier
  sourceGeneration : ℕ
  contentKind : ContentKind
  totalBytes : ℕ
  leaseId : Identifier
  leaseFence : ℕ
  leaseHeld : Bool
  deriving DecidableEq

structure ContentPage where
  terms : ContentTerms
  pageSeq : ℕ
  chunk : String
  complete : Bool
  leaseExpiresAt : Timestamp
  deriving DecidableEq

namespace ContentPage

variable (page : ContentPage)

def stream : Identifier × ContentKind := (page.terms.operationId, page.terms.contentKind)

/-- The primary key of a page in both stores. -/
def key : (Identifier × ContentKind) × ℕ := (page.stream, page.pageSeq)

/-- `len(page["chunk"].encode("utf-8"))`. -/
def size : ℕ := page.chunk.utf8ByteSize

/-- `same_page`: everything is the same but the time until which the lease is held. -/
def Same (left right : ContentPage) : Prop :=
  left.terms = right.terms ∧ left.pageSeq = right.pageSeq ∧ left.chunk = right.chunk ∧
    left.complete = right.complete

instance (left right : ContentPage) : Decidable (left.Same right) := by
  unfold Same
  infer_instance

end ContentPage

/-- The receipt of the Kernel for a page. -/
structure ContentReceipt where
  page : ContentPage
  cumulativeBytes : ℕ
  captureComplete : Bool
  capturedAt : Timestamp
  deriving DecidableEq

def ContentReceipt.key (receipt : ContentReceipt) : (Identifier × ContentKind) × ℕ :=
  receipt.page.key

/-- A row of `sdk_revision_content_pages`. -/
structure StagedPage where
  page : ContentPage
  kernelReceipt : Option ContentReceipt

def StagedPage.key (row : StagedPage) : (Identifier × ContentKind) × ℕ := row.page.key

/-- `kernel_revision_content_pages`. -/
abbrev KernelContent := Table ContentReceipt.key

/-- `sdk_revision_content_pages`. -/
abbrev StagedContent := Table StagedPage.key

/-! ### The Kernel -/

namespace KernelContent

variable (content : KernelContent)

/-- The checks on the page that the host has attested to. -/
def checkPage (timestamp : Timestamp) (page : ContentPage) : Except KernelError Unit :=
  check (page.terms.operationId = page.terms.barrierOperationId ∧
      page.pageSeq ≤ maxSqliteInteger ∧ page.terms.totalBytes ≤ maxSqliteInteger ∧
      page.terms.leaseFence ≤ maxSqliteInteger ∧ page.terms.sourceGeneration ≤ maxSqliteInteger ∧
      page.size ≤ 512 * 1024 ∧ page.terms.leaseHeld = true ∧
      (page.complete = true ∨ page.chunk ≠ "") ∧ timestamp < page.leaseExpiresAt)
    (.storageIsolation "host verification did not authorize revision content")

/-- The bytes before a page that continues its stream. -/
def precedingBytes (page : ContentPage) : Except KernelError ℕ :=
  match Table.latest content page.stream with
  | none => do
    check (page.pageSeq = 0) (.casConflict "revision content must begin at page zero")
    return 0
  | some prior => do
    check (prior.page.pageSeq + 1 = page.pageSeq ∧ prior.captureComplete = false ∧
        page.terms = prior.page.terms)
      (.casConflict "revision content page does not continue its source")
    return prior.cumulativeBytes

/-- `stage_revision_content_page` of the Kernel. The host is asked again before the commit. -/
def stageRevisionContentPage (timestamp : Timestamp) (authority revalidation : Except KernelError Unit)
    (page : ContentPage) : Except KernelError (KernelContent × ContentReceipt) := do
  checkPage timestamp page
  authority
  match content.find? page.key with
  | some receipt => do
    check (receipt.page.Same page) (.casConflict "revision page already has different content")
    revalidation
    return (content, receipt)
  | none => do
    let preceding ← content.precedingBytes page
    let count := preceding + page.size
    check (count ≤ page.terms.totalBytes ∧ (page.complete = true ↔ count = page.terms.totalBytes))
      (.casConflict "revision content total is inconsistent")
    let receipt : ContentReceipt := ⟨page, count, page.complete, timestamp⟩
    revalidation
    return (content.put receipt, receipt)

end KernelContent

/-! ### The Orchestrator -/

namespace StagedContent

variable (content : StagedContent)

def checkPage (now : Timestamp) (page : ContentPage) : Except SdkError Unit := do
  check (∀ name ∈ [page.terms.operationId, page.terms.decisionId, page.terms.barrierOperationId,
      page.terms.runId, page.terms.kernelStoreId, page.terms.orchestratorStoreId,
      page.terms.orchestratorIncarnation, page.terms.leaseId], name.text.utf8ByteSize ≤ 4096)
    (.orchestration "revision content identity exceeds its limit")
  check (∀ count ∈ [page.terms.sourceGeneration, page.pageSeq, page.terms.totalBytes,
      page.terms.leaseFence], count ≤ maxSqliteInteger)
    (.orchestration "revision content count exceeds its limit")
  check (page.size ≤ 256 * 1024 ∧ (page.chunk ≠ "" ∨ page.complete = true) ∧
      page.terms.leaseHeld = true ∧ now < page.leaseExpiresAt ∧
      page.terms.decisionId = page.terms.operationId ∧
      page.terms.barrierOperationId = page.terms.operationId)
    (.orchestration "invalid bounded revision content or lease")

def notAcknowledged : SdkError :=
  .orchestration "previous revision content page is not acknowledged"

/-- The bytes before a page that is there. -/
def recordedBytes (page : ContentPage) : Except SdkError ℕ :=
  if page.pageSeq = 0 then .ok 0
  else do
    let predecessor ← present (content.find? (page.stream, page.pageSeq - 1)) notAcknowledged
    let receipt ← present predecessor.kernelReceipt notAcknowledged
    return receipt.cumulativeBytes

/-- The bytes before a page that continues its stream. -/
def precedingBytes (page : ContentPage) : Except SdkError ℕ :=
  match Table.latest content page.stream with
  | none => do
    check (page.pageSeq = 0) (.orchestration "revision content starts at page zero")
    return 0
  | some previous => do
    check (previous.page.pageSeq + 1 = page.pageSeq) notAcknowledged
    let prior ← present previous.kernelReceipt notAcknowledged
    check (prior.captureComplete = false) (.orchestration "revision content is already complete")
    check (prior.page.terms = page.terms)
      (.commandConflict "revision content stream identity differs")
    return prior.cumulativeBytes

/-- The first transaction of `stage_revision_content_page`: the page is recorded, and the size that
its receipt will name. -/
def record (now : Timestamp) (gate : Except SdkError Unit) (page : ContentPage) :
    Except SdkError (StagedContent × ℕ) := do
  checkPage now page
  gate
  match content.find? page.key with
  | some old => do
    check (old.page.Same page) (.commandConflict "revision content page differs")
    let preceding ← content.recordedBytes page
    return (content, preceding + page.size)
  | none => do
    let preceding ← content.precedingBytes page
    let count := preceding + page.size
    check (count ≤ page.terms.totalBytes ∧ (page.complete = true ↔ count = page.terms.totalBytes))
      (.orchestration "revision content total is inconsistent")
    return (content.put ⟨page, none⟩, count)

/-- The receipt is one for the page; `bytes` is the number of bytes in which it is written. -/
def checkReceipt (bytes : ContentReceipt → ℕ) (page : ContentPage) (expected : ℕ)
    (receipt : ContentReceipt) : Except SdkError Unit :=
  check (receipt.page.Same page ∧ receipt.captureComplete = page.complete ∧
      receipt.cumulativeBytes = expected ∧ bytes receipt ≤ 1024 * 1024)
    (.orchestration "Kernel content receipt differs")

/-- `SET kernel_receipt=?`. -/
def received (page : ContentPage) (receipt : ContentReceipt) : StagedContent :=
  content.update (fun row =>
    if row.key = page.key then { row with kernelReceipt := some receipt } else row) fun row => by
      split <;> rfl

/-- The last transaction of `stage_revision_content_page`. -/
def acknowledge (gate : Except SdkError Unit) (page : ContentPage) (receipt : ContentReceipt) :
    Except SdkError StagedContent := do
  gate
  let changed := SdkError.revisionConflict "revision content source or participant changed"
  let old ← present (content.find? page.key) changed
  check (old.page.Same page) changed
  check (∀ known ∈ old.kernelReceipt, known = receipt)
    (.commandConflict "revision content receipt differs")
  return content.received page receipt

end StagedContent

/-! ### The system -/

/-- A call of `stage_revision_content_page` of the Orchestrator that has recorded its page. -/
structure StagingCall where
  page : ContentPage
  expected : ℕ
  receipt : Option ContentReceipt

/-- Both stores, and the calls that are under way. -/
structure RevisionContent where
  kernel : KernelContent
  staged : StagedContent
  calls : List StagingCall

namespace RevisionContent

/-- One committed transaction, or a process that stops. -/
inductive Step (bytes : ContentReceipt → ℕ) (state : RevisionContent) : RevisionContent → Prop
  | recorded (now : Timestamp) (gate : Except SdkError Unit) (page : ContentPage)
      (answer : StagedContent × ℕ) (passed : state.staged.record now gate page = .ok answer) :
      Step bytes state
        { state with staged := answer.1, calls := ⟨page, answer.2, none⟩ :: state.calls }
  /-- A page that is handed to the Kernel by whoever the host allows. -/
  | staged (timestamp : Timestamp) (authority revalidation : Except KernelError Unit)
      (page : ContentPage) (answer : KernelContent × ContentReceipt)
      (passed : state.kernel.stageRevisionContentPage timestamp authority revalidation page =
        .ok answer) :
      Step bytes state { state with kernel := answer.1 }
  /-- The same for a call of the Orchestrator, which is answered. -/
  | answered (call : StagingCall) (running : call ∈ state.calls) (timestamp : Timestamp)
      (authority revalidation : Except KernelError Unit) (answer : KernelContent × ContentReceipt)
      (passed : state.kernel.stageRevisionContentPage timestamp authority revalidation call.page =
        .ok answer)
      (exact : StagedContent.checkReceipt bytes call.page call.expected answer.2 = .ok ()) :
      Step bytes state
        { state with
          kernel := answer.1, calls := { call with receipt := some answer.2 } :: state.calls }
  | acknowledged (call : StagingCall) (running : call ∈ state.calls) (receipt : ContentReceipt)
      (given : call.receipt = some receipt) (gate : Except SdkError Unit) (staged : StagedContent)
      (passed : state.staged.acknowledge gate call.page receipt = .ok staged) :
      Step bytes state { state with staged }
  /-- A call that fails or is lost, or that is over. -/
  | stopped (calls : List StagingCall) (fewer : calls ⊆ state.calls) :
      Step bytes state { state with calls }

end RevisionContent

/-- The staging of content by any number of processes. -/
def revisionContent (bytes : ContentReceipt → ℕ) : TransitionSystem RevisionContent where
  initial state := state = ⟨∅, ∅, []⟩
  step := RevisionContent.Step bytes

open List Option
open ExecutionKernel (Identifier Timestamp KernelError)

/-! ### The pages of a stream -/

section Pages

variable {Row : Type} {key : Row → (Identifier × ContentKind) × ℕ} (pageOf : Row → ContentPage)

/-- The bytes of the first pages of a stream. -/
def contentBytes (table : Table key) (stream : Identifier × ContentKind) (count : ℕ) : ℕ :=
  ((table.pages stream count).map fun row => (pageOf row).size).sum

/-- The pages of a stream, as a store keeps them. -/
structure Counted (table : Table key) (stream : Identifier × ContentKind) (count : ℕ) : Prop where
  numbered : table.Numbered stream count
  terms : ∀ left ∈ table, ∀ right ∈ table, (key left).1 = stream → (key right).1 = stream →
    (pageOf left).terms = (pageOf right).terms
  bounded : ∀ row ∈ table, (key row).1 = stream →
    contentBytes pageOf table stream ((key row).2 + 1) ≤ (pageOf row).terms.totalBytes ∧
      ((pageOf row).complete = true ↔
        contentBytes pageOf table stream ((key row).2 + 1) = (pageOf row).terms.totalBytes)
  last : ∀ row ∈ table, (key row).1 = stream → (pageOf row).complete = true →
    (key row).2 + 1 = count

variable {pageOf} {table : Table key} {stream : Identifier × ContentKind} {count : ℕ}

variable {row : Row}

theorem contentBytes_succ (found : table.find? (stream, count) = some row) :
    contentBytes pageOf table stream (count + 1) =
      contentBytes pageOf table stream count + (pageOf row).size := by
  unfold contentBytes
  rw [pages_succ found, map_append, sum_append, map_singleton, sum_singleton]

theorem contentBytes_put {number : ℕ} (other : (key row).1 = stream → number ≤ (key row).2) :
    contentBytes pageOf (table.put row) stream number = contentBytes pageOf table stream number := by
  unfold contentBytes
  refine congrArg (fun rows => (List.map _ rows).sum) (filterMap_congr fun place small => ?_)
  refine find?_put_other table fun same => ?_
  have bound := other (congrArg Prod.fst same).symm
  have equal : place = (key row).2 := congrArg Prod.snd same
  have less := mem_range.mp small
  omega

theorem counted_empty (pageOf : Row → ContentPage) (stream : Identifier × ContentKind) :
    Counted pageOf (∅ : Table key) stream 0 :=
  ⟨numbered_empty stream, fun _ stored => absurd stored not_mem_nil,
    fun _ stored => absurd stored not_mem_nil, fun _ stored => absurd stored not_mem_nil⟩

theorem Counted.put_other (counted : Counted pageOf table stream count)
    (other : (key row).1 ≠ stream) : Counted pageOf (table.put row) stream count := by
  have old : ∀ {page : Row}, page ∈ table.put row → (key page).1 = stream → page ∈ table := by
    intro page stored own
    rcases mem_put.mp stored with rfl | ⟨there, _⟩
    · exact absurd own other
    · exact there
  refine ⟨counted.numbered.put_other other, fun left leftStored right rightStored leftOwn rightOwn =>
    counted.terms left (old leftStored leftOwn) right (old rightStored rightOwn) leftOwn rightOwn,
    fun page stored own => ?_, fun page stored own =>
      counted.last page (old stored own) own⟩
  rw [contentBytes_put fun same => absurd same other]
  exact counted.bounded page (old stored own) own

theorem Counted.put (counted : Counted pageOf table stream count) {row : Row}
    (own : key row = (stream, count))
    (terms : ∀ page ∈ table, (key page).1 = stream → (pageOf page).terms = (pageOf row).terms)
    (unfinished : ∀ page ∈ table, (key page).1 = stream → (pageOf page).complete = false)
    (fits : contentBytes pageOf table stream count + (pageOf row).size ≤
      (pageOf row).terms.totalBytes)
    (full : (pageOf row).complete = true ↔
      contentBytes pageOf table stream count + (pageOf row).size = (pageOf row).terms.totalBytes) :
    Counted pageOf (table.put row) stream (count + 1) := by
  have mine : (key row).1 = stream := congrArg Prod.fst own
  have number : (key row).2 = count := congrArg Prod.snd own
  have bytes : contentBytes pageOf (table.put row) stream (count + 1) =
      contentBytes pageOf table stream count + (pageOf row).size := by
    have found : (table.put row).find? (stream, count) = some row := by
      rw [← own]
      exact find?_put_same table row
    rw [contentBytes_succ found, contentBytes_put fun _ => number.ge]
  refine ⟨counted.numbered.put own, fun left leftStored right rightStored leftOwn rightOwn => ?_,
    fun page stored pageOwn => ?_, fun page stored pageOwn complete => ?_⟩
  · rcases mem_put.mp leftStored with rfl | ⟨leftOld, _⟩
    · rcases mem_put.mp rightStored with rfl | ⟨rightOld, _⟩
      · rfl
      · exact (terms right rightOld rightOwn).symm
    · rcases mem_put.mp rightStored with rfl | ⟨rightOld, _⟩
      · exact terms left leftOld leftOwn
      · exact counted.terms left leftOld right rightOld leftOwn rightOwn
  · rcases mem_put.mp stored with rfl | ⟨old, _⟩
    · rw [number, bytes]
      exact ⟨fits, full⟩
    · have below := counted.numbered.below page old pageOwn
      rw [contentBytes_put fun _ => number ▸ below]
      exact counted.bounded page old pageOwn
  · rcases mem_put.mp stored with rfl | ⟨old, _⟩
    · rw [number]
    · cases (unfinished page old pageOwn).symm.trans complete

variable {change : Row → Row}

theorem contentBytes_update (keeps : ∀ row, key (change row) = key row)
    (same : ∀ row, pageOf (change row) = pageOf row) (stream : Identifier × ContentKind)
    (count : ℕ) : contentBytes pageOf (table.update change keeps) stream count =
      contentBytes pageOf table stream count := by
  unfold contentBytes Table.pages
  rw [map_filterMap, map_filterMap]
  refine congrArg List.sum (filterMap_congr fun number _ => ?_)
  rw [find?_update, Option.map_map]
  refine congrArg (fun size => Option.map size _) (funext fun row => ?_)
  exact congrArg ContentPage.size (same row)

theorem Counted.update (counted : Counted pageOf table stream count)
    (keeps : ∀ row, key (change row) = key row) (same : ∀ row, pageOf (change row) = pageOf row) :
    Counted pageOf (table.update change keeps) stream count := by
  refine ⟨counted.numbered.update keeps, fun left leftStored right rightStored => ?_,
    fun row stored => ?_, fun row stored => ?_⟩
  · obtain ⟨leftOld, leftThere, rfl⟩ := mem_update.mp leftStored
    obtain ⟨rightOld, rightThere, rfl⟩ := mem_update.mp rightStored
    rw [keeps, keeps, same, same]
    exact counted.terms leftOld leftThere rightOld rightThere
  · obtain ⟨old, there, rfl⟩ := mem_update.mp stored
    rw [keeps, same, contentBytes_update keeps same]
    exact counted.bounded old there
  · obtain ⟨old, there, rfl⟩ := mem_update.mp stored
    rw [keeps, same]
    exact counted.last old there

theorem Counted.unfinished (counted : Counted pageOf table stream (count + 1)) {prior : Row}
    (found : table.find? (stream, count) = some prior) (goes : (pageOf prior).complete = false) :
    ∀ row ∈ table, (key row).1 = stream → (pageOf row).complete = false := by
  intro row there own
  cases complete : (pageOf row).complete with
  | false => rfl
  | true =>
    have last : (key row).2 = count := Nat.succ_injective (counted.last row there own complete)
    have equal : row = prior := by
      refine eq_of_key_eq there (mem_of_find? found) ?_
      rw [key_of_find? found]
      exact Prod.ext own last
    rw [equal, goes] at complete
    cases complete

theorem Counted.none (counted : Counted pageOf table stream 0) :
    ∀ row ∈ table, (key row).1 ≠ stream := fun row stored own =>
  absurd (counted.numbered.below row stored own) (Nat.not_lt_zero _)

end Pages

/-! ### The Kernel -/

namespace KernelContent

variable {content after : KernelContent}

/-- What holds of the Kernel's pages at any time. -/
structure Sound (content : KernelContent) : Prop where
  streams : ∀ stream, ∃ count, Counted ContentReceipt.page content stream count
  cumulative : ∀ receipt ∈ content, receipt.cumulativeBytes =
    contentBytes ContentReceipt.page content receipt.page.stream (receipt.page.pageSeq + 1)
  flag : ∀ receipt ∈ content, receipt.captureComplete = receipt.page.complete

variable {timestamp : Timestamp} {authority revalidation : Except KernelError Unit}

variable {answer : KernelContent × ContentReceipt}

variable {page : ContentPage}

theorem stage_eq_ok
    (passed : content.stageRevisionContentPage timestamp authority revalidation page = .ok answer) :
    (answer.1 = content ∧ content.find? page.key = some answer.2 ∧ answer.2.page.Same page) ∨
      (content.find? page.key = none ∧ ∃ preceding, content.precedingBytes page = .ok preceding ∧
        preceding + page.size ≤ page.terms.totalBytes ∧
          (page.complete = true ↔ preceding + page.size = page.terms.totalBytes) ∧
            answer.2 = ⟨page, preceding + page.size, page.complete, timestamp⟩ ∧
              answer.1 = content.put answer.2) := by
  unfold stageRevisionContentPage at passed
  simp only [bind_eq_ok] at passed
  obtain ⟨_, _, _, _, passed⟩ := passed
  split at passed
  · rename_i receipt found
    simp only [passes_iff] at passed
    obtain ⟨same, _, _, answered⟩ := passed
    rw [← Except.ok.inj answered]
    exact .inl ⟨rfl, found, same⟩
  · rename_i fresh
    simp only [passes_iff] at passed
    obtain ⟨preceding, before, ⟨fits, full⟩, _, _, answered⟩ := passed
    rw [← Except.ok.inj answered]
    exact .inr ⟨fresh, preceding, before, fits, full, rfl, rfl⟩

theorem Sound.preceding (sound : content.Sound) {preceding : ℕ}
    (passed : content.precedingBytes page = .ok preceding) :
    Counted ContentReceipt.page content page.stream page.pageSeq ∧
      preceding = contentBytes ContentReceipt.page content page.stream page.pageSeq ∧
        (∀ receipt ∈ content, receipt.key.1 = page.stream → receipt.page.terms = page.terms) ∧
          ∀ receipt ∈ content, receipt.key.1 = page.stream → receipt.page.complete = false := by
  obtain ⟨count, counted⟩ := sound.streams page.stream
  unfold precedingBytes at passed
  split at passed
  · rename_i none
    obtain rfl := counted.numbered.of_latest_none none
    simp only [passes_iff] at passed
    obtain ⟨first, answered⟩ := passed
    rw [first, ← Except.ok.inj answered]
    exact ⟨counted, rfl, fun receipt stored own => absurd own (counted.none receipt stored),
      fun receipt stored own => absurd own (counted.none receipt stored)⟩
  · rename_i prior latest
    obtain ⟨last, rfl, found⟩ := counted.numbered.of_latest_some latest
    simp only [passes_iff] at passed
    obtain ⟨⟨next, unfinished, same⟩, answered⟩ := passed
    have stored := mem_of_find? found
    have named : prior.key = (page.stream, last) := key_of_find? found
    have number : prior.page.pageSeq = last := congrArg Prod.snd named
    have own : prior.key.1 = page.stream := congrArg Prod.fst named
    rw [number] at next
    rw [sound.flag prior stored] at unfinished
    rw [← next, ← Except.ok.inj answered]
    refine ⟨counted, ?_, fun receipt there mine => ?_, counted.unfinished found unfinished⟩
    · rw [sound.cumulative prior stored, number]
      exact congrArg (fun stream => contentBytes _ content stream _) own
    · rw [same]
      exact counted.terms receipt there prior stored mine own

theorem Sound.stage (sound : content.Sound)
    (passed : content.stageRevisionContentPage timestamp authority revalidation page = .ok answer) :
    answer.1.Sound := by
  rcases stage_eq_ok passed with ⟨same, _, _⟩ | ⟨fresh, preceding, before, fits, full, made, put⟩
  · rw [same]
    exact sound
  · obtain ⟨counted, counts, terms, unfinished⟩ := sound.preceding before
    have key : answer.2.key = (page.stream, page.pageSeq) := by
      rw [made]
      rfl
    rw [put]
    refine ⟨fun stream => ?_, fun receipt stored => ?_, fun receipt stored => ?_⟩
    · by_cases own : page.stream = stream
      · subst own
        refine ⟨page.pageSeq + 1, counted.put key ?_ unfinished ?_ ?_⟩
        · rw [made]
          exact terms
        · rw [made, ← counts]
          exact fits
        · rw [made, ← counts]
          exact full
      · obtain ⟨count, other⟩ := sound.streams stream
        refine ⟨count, other.put_other fun same => own ?_⟩
        rw [← same, key]
    · rcases mem_put.mp stored with rfl | ⟨old, differs⟩
      · have found : (content.put answer.2).find? (page.stream, page.pageSeq) = some answer.2 := by
          rw [← key]
          exact find?_put_same content answer.2
        have named : answer.2.page = page := by
          rw [made]
        rw [named, contentBytes_succ found, contentBytes_put fun _ => ?_, ← counts, named, made]
        rw [key]
      · rw [contentBytes_put fun same => ?_]
        · exact sound.cumulative receipt old
        · rw [key] at same ⊢
          have own : receipt.key.1 = page.stream := same.symm
          exact counted.numbered.below receipt old own
    · rcases mem_put.mp stored with rfl | ⟨old, _⟩
      · rw [made]
      · exact sound.flag receipt old

end KernelContent

/-! ### Both stores -/

variable {left right : ContentPage}

theorem ContentPage.Same.key (same : left.Same right) : left.key = right.key := by
  obtain ⟨terms, number, _, _⟩ := same
  unfold ContentPage.key ContentPage.stream
  rw [terms, number]

theorem ContentPage.Same.symm (same : left.Same right) : right.Same left :=
  ⟨same.1.symm, same.2.1.symm, same.2.2.1.symm, same.2.2.2.symm⟩

theorem ContentPage.Same.trans {first second third : ContentPage} (early : first.Same second)
    (late : second.Same third) : first.Same third :=
  ⟨early.1.trans late.1, early.2.1.trans late.2.1, early.2.2.1.trans late.2.2.1,
    early.2.2.2.trans late.2.2.2⟩

namespace RevisionContent

variable {bytes : ContentReceipt → ℕ} {state next : RevisionContent}

/-- The receipt is the Kernel's for a page. -/
structure Backs (bytes : ContentReceipt → ℕ) (kernel : KernelContent) (receipt : ContentReceipt)
    (page : ContentPage) : Prop where
  stored : receipt ∈ kernel
  same : receipt.page.Same page
  small : bytes receipt ≤ 1024 * 1024

/-- What holds of both stores at any time. -/
structure Sound (bytes : ContentReceipt → ℕ) (state : RevisionContent) : Prop where
  kernel : state.kernel.Sound
  streams : ∀ stream, ∃ count, Counted StagedPage.page state.staged stream count ∧
    ∀ row ∈ state.staged, row.key.1 = stream → row.page.pageSeq + 1 < count →
      ∃ receipt, row.kernelReceipt = some receipt
  receipts : ∀ row ∈ state.staged, ∀ receipt ∈ row.kernelReceipt,
    Backs bytes state.kernel receipt row.page
  calls : ∀ call ∈ state.calls, ∀ receipt ∈ call.receipt, Backs bytes state.kernel receipt call.page

theorem Sound.bytes_eq (sound : state.Sound bytes) {stream : Identifier × ContentKind} {count : ℕ}
    (acknowledged : ∀ number < count, ∃ row receipt, state.staged.find? (stream, number) = some row ∧
      row.kernelReceipt = some receipt) :
    contentBytes StagedPage.page state.staged stream count =
      contentBytes ContentReceipt.page state.kernel stream count := by
  unfold contentBytes Table.pages
  rw [map_filterMap, map_filterMap]
  refine congrArg List.sum (filterMap_congr fun number small => ?_)
  obtain ⟨row, receipt, found, given⟩ := acknowledged number (mem_range.mp small)
  have backs := sound.receipts row (mem_of_find? found) receipt given
  have placed : row.key = (stream, number) := key_of_find? found
  have named : receipt.key = (stream, number) := backs.same.key.trans placed
  rw [found, ← named, find?_key backs.stored, map_some, map_some]
  unfold ContentPage.size
  rw [backs.same.2.2.1]

section

variable {receipt : ContentReceipt} {row : StagedPage} (sound : state.Sound bytes)
  (stored : row ∈ state.staged) (given : row.kernelReceipt = some receipt)

include sound stored given

theorem Sound.acknowledged :
    ∀ number < row.page.pageSeq + 1, ∃ other receipt,
      state.staged.find? (row.page.stream, number) = some other ∧
        other.kernelReceipt = some receipt := by
  intro number small
  obtain ⟨count, counted, acknowledged⟩ := sound.streams row.page.stream
  have below : row.page.pageSeq < count := counted.numbered.below row stored rfl
  by_cases here : number = row.page.pageSeq
  · refine ⟨row, receipt, ?_, given⟩
    rw [here]
    exact find?_key stored
  · obtain ⟨other, found⟩ := counted.numbered.there number (by omega)
    have named : other.key = (row.page.stream, number) := key_of_find? found
    have place : other.page.pageSeq = number := congrArg Prod.snd named
    obtain ⟨known, answered⟩ := acknowledged other (mem_of_find? found)
      (congrArg Prod.fst named) (by omega)
    exact ⟨other, known, found, answered⟩

theorem Sound.cumulative :
    receipt.cumulativeBytes =
      contentBytes StagedPage.page state.staged row.page.stream (row.page.pageSeq + 1) := by
  have backs := sound.receipts row stored receipt given
  have key : receipt.page.key = row.page.key := backs.same.key
  rw [sound.bytes_eq (sound.acknowledged stored given), sound.kernel.cumulative receipt backs.stored,
    show receipt.page.stream = row.page.stream from congrArg Prod.fst key,
    show receipt.page.pageSeq = row.page.pageSeq from congrArg Prod.snd key]

end

end RevisionContent

namespace StagedContent

variable {content : StagedContent}

variable {gate : Except SdkError Unit} {page : ContentPage}

theorem record_eq_ok {now : Timestamp} {answer : StagedContent × ℕ}
    (passed : content.record now gate page = .ok answer) :
    (answer.1 = content ∧ ∃ old preceding, content.find? page.key = some old ∧ old.page.Same page ∧
        content.recordedBytes page = .ok preceding ∧ answer.2 = preceding + page.size) ∨
      (content.find? page.key = none ∧ ∃ preceding, content.precedingBytes page = .ok preceding ∧
        preceding + page.size ≤ page.terms.totalBytes ∧
          (page.complete = true ↔ preceding + page.size = page.terms.totalBytes) ∧
            answer = (content.put ⟨page, none⟩, preceding + page.size)) := by
  unfold record at passed
  simp only [bind_eq_ok] at passed
  obtain ⟨_, _, _, _, passed⟩ := passed
  split at passed
  · rename_i old found
    simp only [passes_iff] at passed
    obtain ⟨same, preceding, before, answered⟩ := passed
    rw [← Except.ok.inj answered]
    exact .inl ⟨rfl, old, preceding, found, same, before, rfl⟩
  · rename_i fresh
    simp only [passes_iff] at passed
    obtain ⟨preceding, before, ⟨fits, full⟩, answered⟩ := passed
    exact .inr ⟨fresh, preceding, before, fits, full, (Except.ok.inj answered).symm⟩

variable {receipt : ContentReceipt}

theorem acknowledge_eq_ok {after : StagedContent}
    (passed : content.acknowledge gate page receipt = .ok after) :
    ∃ old, content.find? page.key = some old ∧ old.page.Same page ∧
      (∀ known ∈ old.kernelReceipt, known = receipt) ∧ after = content.received page receipt := by
  unfold acknowledge at passed
  simp only [passes_iff] at passed
  obtain ⟨_, _, old, found, same, known, answered⟩ := passed
  exact ⟨old, found, same, known, (Except.ok.inj answered).symm⟩

theorem mem_received {row : StagedPage} :
    row ∈ content.received page receipt ↔ ∃ old ∈ content,
      (if old.key = page.key then { old with kernelReceipt := some receipt } else old) = row :=
  mem_update

end StagedContent

namespace RevisionContent

variable {bytes : ContentReceipt → ℕ} {state next : RevisionContent}

variable {page : ContentPage}

/-- What the Orchestrator has checked before it counts the bytes of a page that continues its
stream. -/
theorem Sound.preceding (sound : state.Sound bytes) {preceding : ℕ}
    (passed : state.staged.precedingBytes page = .ok preceding) :
    Counted StagedPage.page state.staged page.stream page.pageSeq ∧
      preceding = contentBytes StagedPage.page state.staged page.stream page.pageSeq ∧
        (∀ row ∈ state.staged, row.key.1 = page.stream → row.page.terms = page.terms) ∧
          (∀ row ∈ state.staged, row.key.1 = page.stream → row.page.complete = false) ∧
            ∀ row ∈ state.staged, row.key.1 = page.stream →
              ∃ receipt, row.kernelReceipt = some receipt := by
  obtain ⟨count, counted, acknowledged⟩ := sound.streams page.stream
  unfold StagedContent.precedingBytes at passed
  split at passed
  · rename_i none
    obtain rfl := counted.numbered.of_latest_none none
    simp only [passes_iff] at passed
    obtain ⟨first, answered⟩ := passed
    rw [first, ← Except.ok.inj answered]
    exact ⟨counted, rfl, fun row stored own => absurd own (counted.none row stored),
      fun row stored own => absurd own (counted.none row stored),
      fun row stored own => absurd own (counted.none row stored)⟩
  · rename_i previous latest
    obtain ⟨last, rfl, found⟩ := counted.numbered.of_latest_some latest
    simp only [passes_iff] at passed
    obtain ⟨following, prior, given, unfinished, same, answered⟩ := passed
    have stored := mem_of_find? found
    have named : previous.key = (page.stream, last) := key_of_find? found
    have number : previous.page.pageSeq = last := congrArg Prod.snd named
    have own : previous.key.1 = page.stream := congrArg Prod.fst named
    have backs := sound.receipts previous stored prior given
    rw [number] at following
    rw [sound.kernel.flag prior backs.stored, backs.same.2.2.2] at unfinished
    rw [← following, ← Except.ok.inj answered]
    refine ⟨counted, ?_, fun row there mine => ?_, counted.unfinished found unfinished,
      fun row there mine => ?_⟩
    · rw [sound.cumulative stored given, number]
      exact congrArg (fun stream => contentBytes _ state.staged stream _) own
    · rw [← same, backs.same.1]
      exact counted.terms row there previous stored mine own
    · by_cases here : row.page.pageSeq = last
      · have equal : row = previous := by
          refine eq_of_key_eq there stored ?_
          rw [named]
          exact Prod.ext mine here
        rw [equal]
        exact ⟨prior, given⟩
      · have below : row.page.pageSeq < last + 1 := counted.numbered.below row there mine
        exact acknowledged row there mine (by omega)

theorem Backs.stage {kernel : KernelContent} {receipt : ContentReceipt}
    (backs : Backs bytes kernel receipt page) {timestamp : Timestamp}
    {authority revalidation : Except KernelError Unit} {other : ContentPage}
    {answer : KernelContent × ContentReceipt}
    (passed : kernel.stageRevisionContentPage timestamp authority revalidation other = .ok answer) :
    Backs bytes answer.1 receipt page := by
  refine ⟨?_, backs.same, backs.small⟩
  rcases KernelContent.stage_eq_ok passed with ⟨same, _, _⟩ | ⟨fresh, _, _, _, _, made, put⟩
  · rw [same]
    exact backs.stored
  · rw [put]
    refine mem_put_of_fresh _ ?_ backs.stored
    rw [made]
    exact fresh

theorem Step.sound (step : state.Step bytes next) (sound : state.Sound bytes) :
    next.Sound bytes := by
  cases step with
  | recorded now gate page answer passed =>
    have calls : ∀ call ∈ (⟨page, answer.2, none⟩ :: state.calls : List StagingCall),
        ∀ receipt ∈ call.receipt, Backs bytes state.kernel receipt call.page := by
      intro call running receipt given
      rcases mem_cons.mp running with rfl | old
      · cases given
      · exact sound.calls call old receipt given
    rcases StagedContent.record_eq_ok passed with
      ⟨same, _⟩ | ⟨fresh, preceding, before, fits, full, made⟩
    · refine ⟨sound.kernel, ?_, ?_, calls⟩
      · rw [same]
        exact sound.streams
      · rw [same]
        exact sound.receipts
    · obtain ⟨counted, counts, terms, unfinished, acknowledged⟩ := sound.preceding before
      rw [made] at calls ⊢
      refine ⟨sound.kernel, fun stream => ?_, fun row stored receipt given => ?_, calls⟩
      · by_cases own : page.stream = stream
        · subst own
          refine ⟨page.pageSeq + 1, @Counted.put _ _ _ _ _ _ counted ⟨page, none⟩ rfl terms
            unfinished (counts ▸ fits) (counts ▸ full), fun row stored mine early => ?_⟩
          rcases mem_put.mp stored with rfl | ⟨old, _⟩
          · exact absurd early (lt_irrefl _)
          · exact acknowledged row old mine
        · obtain ⟨count, other, known⟩ := sound.streams stream
          refine ⟨count, other.put_other own, fun row stored mine early => ?_⟩
          rcases mem_put.mp stored with rfl | ⟨old, _⟩
          · exact absurd mine own
          · exact known row old mine early
      · rcases mem_put.mp stored with rfl | ⟨old, _⟩
        · cases given
        · exact sound.receipts row old receipt given
  | staged timestamp authority revalidation page answer passed =>
    exact ⟨sound.kernel.stage passed, sound.streams,
      fun row stored receipt given => (sound.receipts row stored receipt given).stage passed,
      fun call running receipt given => (sound.calls call running receipt given).stage passed⟩
  | answered call running timestamp authority revalidation answer passed exact =>
    refine ⟨sound.kernel.stage passed, sound.streams,
      fun row stored receipt given => (sound.receipts row stored receipt given).stage passed,
      fun other there receipt given => ?_⟩
    rcases mem_cons.mp there with rfl | old
    · obtain rfl := Option.some.inj given
      obtain ⟨same, _, _, small⟩ := check_eq_ok.mp exact
      refine ⟨?_, same, small⟩
      rcases KernelContent.stage_eq_ok passed with ⟨kept, found, _⟩ | ⟨_, _, _, _, _, _, put⟩
      · rw [kept]
        exact mem_of_find? found
      · rw [put]
        exact mem_put.mpr (.inl rfl)
    · exact (sound.calls other old receipt given).stage passed
  | acknowledged call running receipt given gate staged passed =>
    obtain ⟨old, found, same, known, rfl⟩ := StagedContent.acknowledge_eq_ok passed
    have backs := sound.calls call running receipt given
    refine ⟨sound.kernel, fun stream => ?_, fun row stored other kept => ?_, sound.calls⟩
    · obtain ⟨count, counted, acknowledged⟩ := sound.streams stream
      refine ⟨count, counted.update (fun row => by split <;> rfl) fun row => by split <;> rfl,
        fun row stored mine early => ?_⟩
      obtain ⟨before, there, rfl⟩ := StagedContent.mem_received.mp stored
      split
      · exact ⟨receipt, rfl⟩
      · rename_i differs
        rw [if_neg differs] at mine early
        exact acknowledged before there mine early
    · obtain ⟨before, there, rfl⟩ := StagedContent.mem_received.mp stored
      by_cases here : before.key = call.page.key
      · rw [if_pos here] at kept ⊢
        obtain rfl := Option.some.inj kept
        have equal : before = old := by
          refine eq_of_key_eq there (mem_of_find? found) ?_
          rw [here, key_of_find? found]
        rw [equal]
        exact ⟨backs.stored, backs.same.trans same.symm, backs.small⟩
      · rw [if_neg here] at kept ⊢
        exact sound.receipts before there other kept
  | stopped calls fewer =>
    exact ⟨sound.kernel, sound.streams, sound.receipts,
      fun call running => sound.calls call (fewer running)⟩

end RevisionContent

namespace RevisionContent

variable {bytes : ContentReceipt → ℕ} {state next last : RevisionContent}

theorem sound (reachable : (revisionContent bytes).Reachable state) : state.Sound bytes := by
  refine reachable.invariant (Sound bytes) ?_ fun _ _ _ sound step => Step.sound step sound
  rintro _ rfl
  refine ⟨⟨fun stream => ⟨0, counted_empty _ stream⟩, ?_, ?_⟩,
    fun stream => ⟨0, counted_empty _ stream, ?_⟩, ?_, ?_⟩
  · rintro receipt ⟨⟩
  · rintro receipt ⟨⟩
  · rintro row ⟨⟩
  · rintro row ⟨⟩
  · rintro call ⟨⟩

/-! ### What never changes -/

/-- Receipts and pages stay as they are, and so does the receipt of a page that has one. -/
structure Keeps (state next : RevisionContent) : Prop where
  kernel : ∀ receipt ∈ state.kernel, receipt ∈ next.kernel
  staged : ∀ row ∈ state.staged, ∃ later ∈ next.staged, later.page = row.page ∧
    ∀ receipt ∈ row.kernelReceipt, later.kernelReceipt = some receipt

theorem Keeps.refl (state : RevisionContent) : state.Keeps state :=
  ⟨fun _ stored => stored, fun row stored => ⟨row, stored, rfl, fun _ given => given⟩⟩

theorem Keeps.trans {first second third : RevisionContent} (early : first.Keeps second)
    (late : second.Keeps third) : first.Keeps third := by
  refine ⟨fun receipt stored => late.kernel receipt (early.kernel receipt stored),
    fun row stored => ?_⟩
  obtain ⟨middle, there, same, given⟩ := early.staged row stored
  obtain ⟨last, ultimately, equal, still⟩ := late.staged middle there
  exact ⟨last, ultimately, equal.trans same, fun receipt known => still receipt (given receipt known)⟩

variable {kernel : KernelContent}

variable {timestamp : Timestamp}

variable {page : ContentPage} {receipt : ContentReceipt} {content : StagedContent}

theorem kernel_kept {authority revalidation : Except KernelError Unit}
    {answer : KernelContent × ContentReceipt}
    (passed : kernel.stageRevisionContentPage timestamp authority revalidation page = .ok answer) :
    ∀ receipt ∈ kernel, receipt ∈ answer.1 := by
  intro receipt stored
  rcases KernelContent.stage_eq_ok passed with ⟨same, _, _⟩ | ⟨fresh, _, _, _, _, made, put⟩
  · rw [same]
    exact stored
  · rw [put]
    refine mem_put_of_fresh _ ?_ stored
    rw [made]
    exact fresh

theorem Step.keeps (step : state.Step bytes next) : state.Keeps next := by
  cases step with
  | recorded now gate page answer passed =>
    refine ⟨fun _ stored => stored, fun row stored => ⟨row, ?_, rfl, fun _ given => given⟩⟩
    rcases StagedContent.record_eq_ok passed with ⟨same, _⟩ | ⟨fresh, _, _, _, _, made⟩
    · show row ∈ answer.1
      rw [same]
      exact stored
    · rw [made]
      exact mem_put_of_fresh _ fresh stored
  | staged timestamp authority revalidation page answer passed =>
    exact ⟨kernel_kept passed, fun row stored => ⟨row, stored, rfl, fun _ given => given⟩⟩
  | answered call running timestamp authority revalidation answer passed exact =>
    exact ⟨kernel_kept passed, fun row stored => ⟨row, stored, rfl, fun _ given => given⟩⟩
  | acknowledged call running receipt given gate staged passed =>
    obtain ⟨old, found, same, known, rfl⟩ := StagedContent.acknowledge_eq_ok passed
    refine ⟨fun _ stored => stored, fun row stored =>
      ⟨_, StagedContent.mem_received.mpr ⟨row, stored, rfl⟩, ?_, fun other kept => ?_⟩⟩
    · split <;> rfl
    · split
      · rename_i here
        have equal : row = old := by
          refine eq_of_key_eq stored (mem_of_find? found) ?_
          rw [here, key_of_find? found]
        rw [known other (equal ▸ kept)]
      · exact kept
  | stopped calls fewer =>
    exact ⟨fun _ stored => stored, fun row stored => ⟨row, stored, rfl, fun _ given => given⟩⟩

theorem keeps (reachable : (revisionContent bytes).Reachable state)
    (run : (revisionContent bytes).Run state last) : state.Keeps last :=
  reachable.respects Keeps .refl .trans (fun _ _ _ step => Step.keeps step) run

/-! ### Pages that are staged again -/

theorem stage_again (stored : receipt ∈ kernel) (key : receipt.page.key = page.key) :
    (receipt.page.Same page → KernelContent.checkPage timestamp page = .ok () →
      kernel.stageRevisionContentPage timestamp (.ok ()) (.ok ()) page = .ok (kernel, receipt)) ∧
    (¬ receipt.page.Same page → ∀ authority revalidation, ∃ failure,
      kernel.stageRevisionContentPage timestamp authority revalidation page = .error failure) := by
  have found : kernel.find? page.key = some receipt := by
    rw [← key]
    exact find?_key stored
  refine ⟨fun same passed => ?_, fun differs authority revalidation => ?_⟩
  · unfold KernelContent.stageRevisionContentPage
    rw [passed, found]
    simp only [bind_eq_ok]
    exact ⟨(), trivial, (), trivial, (), check_eq_ok.mpr same, (), trivial, rfl⟩
  · cases outcome : kernel.stageRevisionContentPage timestamp authority revalidation page with
    | error failure => exact ⟨failure, rfl⟩
    | ok answer =>
      rcases KernelContent.stage_eq_ok outcome with ⟨_, again, same⟩ | ⟨fresh, _⟩
      · rw [Option.some.inj (found.symm.trans again)] at differs
        exact absurd same differs
      · cases found.symm.trans fresh

variable {row : StagedPage}

theorem Sound.record_again (sound : state.Sound bytes) (stored : row ∈ state.staged)
    (key : row.page.key = page.key) {now : Timestamp} :
    (row.page.Same page → StagedContent.checkPage now page = .ok () →
      state.staged.record now (.ok ()) page = .ok (state.staged,
        contentBytes StagedPage.page state.staged page.stream (page.pageSeq + 1))) ∧
    (¬ row.page.Same page → ∀ gate, ∃ failure,
      state.staged.record now gate page = .error failure) := by
  have found : state.staged.find? page.key = some row := by
    rw [← key]
    exact find?_key stored
  refine ⟨fun same passed => ?_, fun differs gate => ?_⟩
  · have bytes : contentBytes StagedPage.page state.staged page.stream (page.pageSeq + 1) =
        contentBytes StagedPage.page state.staged page.stream page.pageSeq + page.size := by
      rw [contentBytes_succ found]
      unfold ContentPage.size
      rw [same.2.2.1]
    have before : state.staged.recordedBytes page =
        .ok (contentBytes StagedPage.page state.staged page.stream page.pageSeq) := by
      unfold StagedContent.recordedBytes
      by_cases first : page.pageSeq = 0
      · rw [if_pos first, first]
        rfl
      · rw [if_neg first]
        obtain ⟨count, counted, acknowledged⟩ := sound.streams page.stream
        have own : row.key.1 = page.stream := congrArg Prod.fst key
        have number : row.page.pageSeq = page.pageSeq := congrArg Prod.snd key
        have below : row.page.pageSeq < count := counted.numbered.below row stored own
        obtain ⟨previous, earlier⟩ := counted.numbered.there (page.pageSeq - 1) (by omega)
        have named : previous.key = (page.stream, page.pageSeq - 1) := key_of_find? earlier
        have place : previous.page.pageSeq = page.pageSeq - 1 := congrArg Prod.snd named
        obtain ⟨receipt, given⟩ := acknowledged previous (mem_of_find? earlier)
          (congrArg Prod.fst named) (by omega)
        have counts := sound.cumulative (mem_of_find? earlier) given
        rw [show previous.page.stream = page.stream from congrArg Prod.fst named, place,
          Nat.sub_add_cancel (Nat.one_le_iff_ne_zero.mpr first)] at counts
        simp only [bind_eq_ok, present_eq_ok]
        refine ⟨previous, earlier, receipt, given, ?_⟩
        rw [counts]
        rfl
    unfold StagedContent.record
    rw [passed, found, bytes]
    simp only [bind_eq_ok]
    exact ⟨(), trivial, (), trivial, (), check_eq_ok.mpr same, _, before, rfl⟩
  · cases outcome : state.staged.record now gate page with
    | error failure => exact ⟨failure, rfl⟩
    | ok answer =>
      rcases StagedContent.record_eq_ok outcome with ⟨_, old, _, again, same, _⟩ | ⟨fresh, _⟩
      · rw [Option.some.inj (found.symm.trans again)] at differs
        exact absurd same differs
      · cases found.symm.trans fresh

theorem received_again (stored : row ∈ content) (key : row.page.key = page.key)
    (given : row.kernelReceipt = some receipt) : content.received page receipt = content := by
  refine Table.ext ?_
  show content.rows.map _ = content.rows
  refine (map_congr_left fun other there => ?_).trans (map_id _)
  split
  · rename_i here
    have equal : other = row := eq_of_key_eq there stored (here.trans key.symm)
    rw [equal, ← given]
    rfl
  · rfl

theorem acknowledge_again (stored : row ∈ content) (same : row.page.Same page)
    (given : row.kernelReceipt = some receipt) :
    content.acknowledge (.ok ()) page receipt = .ok content := by
  have found : content.find? page.key = some row := by
    rw [← same.key]
    exact find?_key stored
  unfold StagedContent.acknowledge
  rw [found, received_again stored same.key given]
  simp only [bind_eq_ok]
  refine ⟨(), trivial, row, rfl, (), check_eq_ok.mpr same, (), check_eq_ok.mpr ?_, rfl⟩
  intro known kept
  exact Option.some.inj (kept.symm.trans given)

/-! ### The pages of every run -/

/-- What may be relied on of the two stores at any time. -/
structure Agrees (bytes : ContentReceipt → ℕ) (state : RevisionContent) : Prop where
  /-- A complete stream of the Kernel has the pages up to its last one, and they have as many bytes
  as was said. -/
  captured : ∀ receipt ∈ state.kernel, receipt.captureComplete = true →
    (∀ number, (∃ other ∈ state.kernel, other.key = (receipt.page.stream, number)) ↔
      number ≤ receipt.page.pageSeq) ∧
        contentBytes ContentReceipt.page state.kernel receipt.page.stream
          (receipt.page.pageSeq + 1) = receipt.page.terms.totalBytes
  /-- So has a complete stream of the Orchestrator. -/
  recorded : ∀ row ∈ state.staged, row.page.complete = true →
    (∀ number, (∃ other ∈ state.staged, other.key = (row.page.stream, number)) ↔
      number ≤ row.page.pageSeq) ∧
        contentBytes StagedPage.page state.staged row.page.stream (row.page.pageSeq + 1) =
          row.page.terms.totalBytes
  immutable : ∀ last, (revisionContent bytes).Run state last → state.Keeps last
  /-- A page that is acknowledged is in the Kernel with the same bytes. -/
  acknowledged : ∀ row ∈ state.staged, ∀ receipt ∈ row.kernelReceipt,
    state.kernel.find? row.key = some receipt ∧ receipt.page.Same row.page
  /-- A page that the Kernel is handed again changes nothing, and a different one is refused. -/
  staged_again : ∀ receipt ∈ state.kernel, ∀ (page : ContentPage) (timestamp : Timestamp),
    receipt.page.key = page.key →
      (receipt.page.Same page → KernelContent.checkPage timestamp page = .ok () →
        state.kernel.stageRevisionContentPage timestamp (.ok ()) (.ok ()) page =
          .ok (state.kernel, receipt)) ∧
      (¬ receipt.page.Same page → ∀ authority revalidation, ∃ failure,
        state.kernel.stageRevisionContentPage timestamp authority revalidation page =
          .error failure)
  /-- The same of a page that the Orchestrator is to record again. -/
  recorded_again : ∀ row ∈ state.staged, ∀ (page : ContentPage) (now : Timestamp),
    row.page.key = page.key →
      (row.page.Same page → StagedContent.checkPage now page = .ok () →
        ∃ expected, state.staged.record now (.ok ()) page = .ok (state.staged, expected)) ∧
      (¬ row.page.Same page → ∀ gate, ∃ failure,
        state.staged.record now gate page = .error failure)
  /-- A whole call for a page that is acknowledged succeeds, and changes nothing. -/
  called_again : ∀ row ∈ state.staged, ∀ receipt ∈ row.kernelReceipt, ∀ (page : ContentPage)
    (now timestamp : Timestamp), row.page.Same page → StagedContent.checkPage now page = .ok () →
      KernelContent.checkPage timestamp page = .ok () → ∃ expected,
        state.staged.record now (.ok ()) page = .ok (state.staged, expected) ∧
          state.kernel.stageRevisionContentPage timestamp (.ok ()) (.ok ()) page =
            .ok (state.kernel, receipt) ∧
          StagedContent.checkReceipt bytes page expected receipt = .ok () ∧
            state.staged.acknowledge (.ok ()) page receipt = .ok state.staged

theorem counted_complete {Row : Type} {key : Row → (Identifier × ContentKind) × ℕ}
    {pageOf : Row → ContentPage} (keyed : ∀ row, key row = (pageOf row).key) {table : Table key}
    {row : Row} {count : ℕ} (counted : Counted pageOf table (pageOf row).stream count)
    (stored : row ∈ table) (complete : (pageOf row).complete = true) :
    (∀ number, (∃ other ∈ table, key other = ((pageOf row).stream, number)) ↔
      number ≤ (pageOf row).pageSeq) ∧
        contentBytes pageOf table (pageOf row).stream ((pageOf row).pageSeq + 1) =
          (pageOf row).terms.totalBytes := by
  have own : (key row).1 = (pageOf row).stream := congrArg Prod.fst (keyed row)
  have number : (key row).2 = (pageOf row).pageSeq := congrArg Prod.snd (keyed row)
  have last := counted.last row stored own complete
  have full := (counted.bounded row stored own).2.mp complete
  rw [number] at last full
  refine ⟨fun place => ⟨fun ⟨other, there, named⟩ => ?_, fun small => ?_⟩, full⟩
  · have below := counted.numbered.below other there (congrArg Prod.fst named)
    rw [named, ← last] at below
    exact Nat.le_of_lt_succ below
  · obtain ⟨other, found⟩ := counted.numbered.there place (last ▸ Nat.lt_succ_of_le small)
    exact ⟨other, mem_of_find? found, key_of_find? found⟩

theorem agrees (reachable : (revisionContent bytes).Reachable state) : state.Agrees bytes := by
  have holds := sound reachable
  refine ⟨fun receipt stored complete => ?_, fun row stored complete => ?_,
    fun last run => keeps reachable run, fun row stored receipt given => ?_,
    fun receipt stored page timestamp key => stage_again stored key,
    fun row stored page now key => ?_, fun row stored receipt given page now timestamp same
      recordable stageable => ?_⟩
  · rw [holds.kernel.flag receipt stored] at complete
    obtain ⟨count, counted⟩ := holds.kernel.streams receipt.page.stream
    exact counted_complete (fun _ => rfl) counted stored complete
  · obtain ⟨count, counted, _⟩ := holds.streams row.page.stream
    exact counted_complete (fun _ => rfl) counted stored complete
  · have backs := holds.receipts row stored receipt given
    have key : receipt.key = row.key := backs.same.key
    rw [← key]
    exact ⟨find?_key backs.stored, backs.same⟩
  · obtain ⟨same, differs⟩ := holds.record_again stored key
    exact ⟨fun equal passed => ⟨_, same equal passed⟩, differs⟩
  · have backs := holds.receipts row stored receipt given
    have through : receipt.page.Same page := backs.same.trans same
    have counts := holds.cumulative stored given
    rw [show row.page.stream = page.stream from congrArg Prod.fst same.key,
      show row.page.pageSeq = page.pageSeq from congrArg Prod.snd same.key] at counts
    refine ⟨_, (holds.record_again stored same.key).1 same recordable,
      (stage_again backs.stored through.key).1 through stageable, check_eq_ok.mpr ⟨through, ?_,
        counts, backs.small⟩, acknowledge_again stored same given⟩
    exact (holds.kernel.flag receipt backs.stored).trans through.2.2.2

end RevisionContent

/-- A stream of projection bytes is read as it was appended, and pages that the Orchestrator has
seen acknowledged are in the Kernel, in every order of calls. -/
theorem content_streams_agree {storage : ProjectionStorage} {bytes : ContentReceipt → ℕ}
    {state : RevisionContent} (stored : projectionStorage.Reachable storage)
    (staged : (revisionContent bytes).Reachable state) :
    storage.Faithful ∧ state.Agrees bytes :=
  ⟨ProjectionStorage.faithful stored, RevisionContent.agrees staged⟩

/-! ### A page in each store -/

def sampleProjectionStorage : ProjectionStorage :=
  ProjectionStorage.afterCalls ⟨⟨"store", by decide⟩, ⟨"incarnation", by decide⟩, ∅, ∅, []⟩
    [.create List.length ⟨"stream", by decide⟩ 1 (.object [("scope", .null)]),
      .append ⟨"stream", by decide⟩ 0 [7] true]

def sampleContentPage : ContentPage where
  terms :=
    { operationId := ⟨"operation", by decide⟩, decisionId := ⟨"operation", by decide⟩
      barrierOperationId := ⟨"operation", by decide⟩, runId := ⟨"run", by decide⟩
      kernelStoreId := ⟨"kernel", by decide⟩, orchestratorStoreId := ⟨"store", by decide⟩
      orchestratorIncarnation := ⟨"incarnation", by decide⟩, sourceGeneration := 1
      contentKind := .revision, totalBytes := 2, leaseId := ⟨"lease", by decide⟩
      leaseFence := 1, leaseHeld := true }
  pageSeq := 0
  chunk := "{}"
  complete := true
  leaseExpiresAt := (10 : ℕ)

def sampleContentReceipt : ContentReceipt := ⟨sampleContentPage, 2, true, 1⟩

def sampleRevisionContent : RevisionContent :=
  ⟨(∅ : KernelContent).put sampleContentReceipt,
    StagedContent.received ((∅ : StagedContent).put ⟨sampleContentPage, none⟩) sampleContentPage
      sampleContentReceipt, [⟨sampleContentPage, 2, some sampleContentReceipt⟩,
        ⟨sampleContentPage, 2, none⟩]⟩

theorem content_streams_agree_sample :
    sampleProjectionStorage.Faithful ∧ sampleRevisionContent.Agrees (fun _ => 0) ∧
      sampleProjectionStorage.streams.rows.any ProjectionStream.complete = true ∧
        sampleRevisionContent.staged.rows.any (fun row => row.kernelReceipt.isSome) = true := by
  have stored : projectionStorage.Reachable sampleProjectionStorage :=
    ProjectionStorage.reachable_afterCalls (.start ⟨rfl, rfl, rfl⟩) _
  have start : (revisionContent fun _ => 0).Reachable ⟨∅, ∅, []⟩ := .start rfl
  have recorded := start.next (.recorded 1 (.ok ()) sampleContentPage
    ((∅ : StagedContent).put ⟨sampleContentPage, none⟩, 2) rfl)
  have answered := recorded.next (.answered ⟨sampleContentPage, 2, none⟩ mem_cons_self 1
    (.ok ()) (.ok ()) ((∅ : KernelContent).put sampleContentReceipt, sampleContentReceipt)
    rfl rfl)
  have staged : (revisionContent fun _ => 0).Reachable sampleRevisionContent :=
    answered.next (.acknowledged ⟨sampleContentPage, 2, some sampleContentReceipt⟩
      mem_cons_self sampleContentReceipt rfl (.ok ()) _ rfl)
  obtain ⟨faithful, agrees⟩ := content_streams_agree stored staged
  exact ⟨faithful, agrees, by decide +kernel, by decide +kernel⟩

end DispatcherSdk.Orchestrator
