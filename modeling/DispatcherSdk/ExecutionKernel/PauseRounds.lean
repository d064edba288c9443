/-
This file proves that a round of a capture lists everything once.

A round goes through the executions of the Run, then through the effects of one execution after
the other. Where it stands is said by what is left: the cursor of a page that was full leaves
exactly the items that the page does not hold, and a page that is not full was the last one of
its execution.
-/

import DispatcherSdk.ExecutionKernel.Revision
import DispatcherSdk.Library.Paging
import Mathlib.Algebra.Order.BigOperators.Group.List

namespace DispatcherSdk.ExecutionKernel

open Library List

/-! ### Pages -/

/-- `phase`. -/
inductive PausePhase where
  | executions
  | effects
  deriving DecidableEq

def PausePhase.text : PausePhase → String
  | executions => "executions"
  | effects => "effects"

/-- `cursor`: an execution, and the state and the identifier of one of its effects. -/
structure PauseCursor where
  execution : String
  state : String
  effect : String

/-- `["", "", ""]`. -/
def PauseCursor.start : PauseCursor := ⟨"", "", ""⟩

/-- The columns of an execution that a page shows. -/
structure ExecutionFacts where
  state : ExecutionState
  attempt : ℕ
  fence : ℕ
  startedAt : Option Timestamp
  lease : Option LeaseColumns
  recoveryEffectId : Option Identifier

def ExecutionRow.facts (row : ExecutionRow) : ExecutionFacts :=
  ⟨row.state, row.attempt, row.fence, row.startedAt, row.lease, row.recoveryEffectId⟩

/-- An item of a page. A managed execution may have no row yet. -/
inductive PauseItem where
  | execution (executionId : Identifier) (generation : ℕ) (facts : Option ExecutionFacts)
  | effect (effectId executionId : Identifier) (state : EffectState) (attempt fence : ℕ)
    (executionGeneration : ℕ)

/-- `dict(row)`. -/
def PauseItem.toDict : PauseItem → Json
  | execution executionId generation facts => .object [
      ("execution_id", executionId.toJson), ("generation", .ofNat generation),
      ("state", .ofOption (fun facts => .string facts.state.text) facts),
      ("attempt", .ofOption (fun facts => .ofNat facts.attempt) facts),
      ("fence", .ofOption (fun facts => .ofNat facts.fence) facts),
      ("started_at", .ofOption .ofTimestamp (facts.bind (·.startedAt))),
      ("lease_id", .ofOption (fun lease => lease.leaseId.toJson) (facts.bind (·.lease))),
      ("lease_owner", .ofOption (fun lease => lease.owner.toJson) (facts.bind (·.lease))),
      ("lease_expires_at",
        .ofOption (fun lease => .ofTimestamp lease.expiresAt) (facts.bind (·.lease))),
      ("recovery_effect_id", .ofOption Identifier.toJson (facts.bind (·.recoveryEffectId)))]
  | effect effectId executionId state attempt fence executionGeneration => .object [
      ("effect_id", effectId.toJson), ("execution_id", executionId.toJson),
      ("state", .string state.text), ("attempt", .ofNat attempt), ("fence", .ofNat fence),
      ("execution_generation", .ofNat executionGeneration)]

/-- The cursor that `items[-1]` gives. -/
def PauseItem.cursor : PauseItem → PauseCursor
  | execution executionId _ facts =>
    ⟨executionId.text, (facts.map fun facts => facts.state.text).getD "", ""⟩
  | effect effectId executionId state _ _ _ => ⟨executionId.text, state.text, effectId.text⟩

/-- A row of `kernel_control_pause_pages`. -/
structure PausePage where
  operationId : Identifier
  runId : Identifier
  generation : ℕ
  storeId : Identifier
  roundId : ℕ
  page : ℕ
  maxItems : ℕ
  phase : PausePhase
  items : List PauseItem
  capturedAt : Timestamp
  nextPage : Option ℕ
  nextPhase : PausePhase
  cursor : PauseCursor
  effectContinue : Bool
  captureComplete : Bool

/-- `page_json`. -/
def PausePage.toDict (page : PausePage) : Json :=
  .object [("operation_id", page.operationId.toJson), ("run_id", page.runId.toJson),
    ("generation", .ofNat page.generation), ("store_id", page.storeId.toJson),
    ("round_id", .ofNat page.roundId), ("page", .ofNat page.page),
    ("max_items", .ofNat page.maxItems), ("phase", .string page.phase.text),
    ("items", .array (page.items.map PauseItem.toDict)),
    ("captured_at", .ofTimestamp page.capturedAt),
    ("next_page", .ofOption .ofNat page.nextPage),
    ("next_phase", .string page.nextPhase.text),
    ("cursor", .array [.string page.cursor.execution, .string page.cursor.state,
      .string page.cursor.effect]),
    ("effect_continue", .bool page.effectContinue),
    ("capture_complete", .bool page.captureComplete)]

/-- The primary key: the round of an operation, and the number of the page in it. -/
def PausePage.key (page : PausePage) : (Identifier × ℕ) × ℕ :=
  ((page.operationId, page.roundId), page.page)

/-- The tables of the Kernel and the stored pages. -/
structure PauseStore where
  database : Database
  pages : Table PausePage.key

/-! ### The queries -/

/-- The executions of a Run, `ORDER BY execution_id`. -/
def Database.runMembers (database : Database) (runId : Identifier) : List ManagedExecution :=
  (database.managedExecutions.rows.filter fun member => member.runId = runId).insertionSort
    fun left right => left.executionId.text ≤ right.executionId.text

/-- The state and the identifier of an effect. -/
def EffectRow.place (effect : EffectRow) : String × String :=
  (effect.state.text, effect.effectId.text)

/-- `f.state>? OR (f.state=? AND f.effect_id>?)`. -/
def Precedes (left right : String × String) : Prop :=
  left.1 < right.1 ∨ left.1 = right.1 ∧ left.2 < right.2

instance : DecidableRel Precedes := fun left right =>
  inferInstanceAs (Decidable (left.1 < right.1 ∨ left.1 = right.1 ∧ left.2 < right.2))

/-- The effects of an execution whose outcome is open, `ORDER BY state,effect_id`. -/
def Database.openEffects (database : Database) (executionId : Identifier) : List EffectRow :=
  (database.effects.rows.filter fun effect =>
    effect.executionId = executionId && effect.state.unfinished).insertionSort
      fun left right => ¬ Precedes right.place left.place

def Database.executionItem (database : Database) (member : ManagedExecution) : PauseItem :=
  .execution member.executionId member.generation
    ((database.executions.find? member.executionId).map ExecutionRow.facts)

def ManagedExecution.effectItem (member : ManagedExecution) (effect : EffectRow) : PauseItem :=
  .effect effect.effectId effect.executionId effect.state effect.attempt effect.fence
    member.generation

structure PausePosition where
  phase : PausePhase
  cursor : PauseCursor
  effectContinue : Bool

/-- What a page finds: its items, and the execution whose effects it lists. -/
structure PauseScan where
  items : List PauseItem
  current : Option String

/-- The executions of a Run behind a cursor. -/
def Database.membersAfter (database : Database) (runId : Identifier) (cursor : String) :
    List ManagedExecution :=
  Keyset.after (· < ·) (fun member : ManagedExecution => member.executionId.text) cursor
    (database.runMembers runId)

/-- The effects that the second query finds. -/
def Database.effectsAfter (database : Database) (runId : Identifier) (current : String)
    (cursor : String × String) : List PauseItem :=
  match (database.runMembers runId).find? fun member => member.executionId.text = current with
  | none => []
  | some member => (Keyset.after Precedes EffectRow.place cursor
      (database.openEffects member.executionId)).map member.effectItem

def Database.scanPause (database : Database) (runId : Identifier) (position : PausePosition)
    (maxItems : ℕ) : PauseScan :=
  match position.phase with
  | .executions =>
    ⟨((database.membersAfter runId position.cursor.execution).take maxItems).map
      database.executionItem, none⟩
  | .effects =>
    let current := if position.effectContinue then some position.cursor.execution
      else (database.membersAfter runId position.cursor.execution).head?.map (·.executionId.text)
    let cursor := if position.effectContinue then (position.cursor.state, position.cursor.effect)
      else ("", "")
    match current with
    | none => ⟨[], none⟩
    | some execution =>
      ⟨(database.effectsAfter runId execution cursor).take maxItems, some execution⟩

/-! ### `capture_control_pause_page` -/

/-- Where the page that follows a scan starts. -/
def PauseScan.next (scan : PauseScan) (position : PausePosition) (maxItems : ℕ) : PausePosition :=
  if position.phase = .executions ∧ scan.items.length < maxItems then ⟨.effects, .start, false⟩
  else
    match position.phase, scan.current with
    | .effects, some current =>
      match scan.items.getLast? with
      | some last =>
        if scan.items.length = maxItems then ⟨.effects, { last.cursor with execution := current }, true⟩
        else ⟨.effects, ⟨current, "", ""⟩, false⟩
      | none => ⟨.effects, ⟨current, "", ""⟩, false⟩
    | _, _ =>
      match scan.items.getLast? with
      | some last => ⟨position.phase, last.cursor, false⟩
      | none => ⟨position.phase, position.cursor, false⟩

def PauseScan.complete (scan : PauseScan) (position : PausePosition) : Bool :=
  decide (position.phase = .effects) && scan.current.isNone

def PauseReceipt.pausePage (barrier : PauseReceipt) (position : PausePosition) (scan : PauseScan)
    (round page maxItems : ℕ) (timestamp : Timestamp) : PausePage where
  operationId := barrier.operationId
  runId := barrier.runId
  generation := barrier.generation
  storeId := barrier.storeId
  roundId := round
  page := page
  maxItems := maxItems
  phase := position.phase
  items := scan.items
  capturedAt := timestamp
  nextPage := if scan.complete position then none else some (page + 1)
  nextPhase := (scan.next position maxItems).phase
  cursor := (scan.next position maxItems).cursor
  effectContinue := (scan.next position maxItems).effectContinue
  captureComplete := scan.complete position

namespace PauseStore

/-- The previous round has to be complete. -/
def requirePreviousRound (store : PauseStore) (operationId : Identifier) (round : ℕ) :
    Except KernelError Unit :=
  match round with
  | 0 => .ok ()
  | previous + 1 =>
    Checked.check (∃ page ∈ store.pages.latest (operationId, previous), page.captureComplete = true)
      (.casConflict "previous pause capture round is incomplete")

/-- Where a page of a round starts: the latest page of the round says it. -/
def position (store : PauseStore) (operationId : Identifier) (round page : ℕ) :
    Except KernelError PausePosition :=
  match store.pages.latest (operationId, round) with
  | none => do
    Checked.check (page = 0) (.casConflict "pause page sequence changed")
    pure ⟨.executions, .start, false⟩
  | some prior => do
    Checked.check (prior.page + 1 = page ∧ prior.captureComplete = false)
      (.casConflict "pause page sequence changed or capture is complete")
    pure ⟨prior.nextPhase, prior.cursor, prior.effectContinue⟩

/-- The gate of the Run is still the one that the barrier has closed. -/
def requireClosed (store : PauseStore) (barrier : PauseReceipt) : Except KernelError Unit :=
  Checked.check (∃ control ∈ store.database.runControls.find? barrier.runId,
      control.generation = barrier.generation ∧
        (control.state = .pausing ∨ control.state = .paused))
    (.casConflict "local pause barrier is no longer closed")

/-- What a call meets: the time of its transaction, and whether its query is given up. -/
structure Call where
  timestamp : Timestamp
  expired : Bool

def captureControlPausePage (arithmetic : FloatArithmetic) (operationId : Identifier)
    (round maxItems : ℕ) (call : Call) (page : ℕ) (store : PauseStore) :
    Except KernelError (PausePage × PauseStore) := do
  Checked.check (page < maxSqliteInteger)
    (.value "expected_page must be a non-negative SQLite integer")
  Checked.check (round ≤ maxSqliteInteger) (.value "round_id must be a non-negative SQLite integer")
  Checked.check (1 ≤ maxItems ∧ maxItems ≤ 1000) (.value "max_items must be between 1 and 1000")
  let barrier ← Checked.present (store.database.pauseReceipts.find? operationId)
    (.casConflict "local pause barrier is missing")
  Checked.check (barrier.isPauseBarrier = true) (.casConflict "operation is not a pause barrier")
  match store.pages.find? ((operationId, round), page) with
  | some old => do
    Checked.check (old.maxItems = maxItems)
      (.casConflict "pause page already has a different item limit")
    pure (old, store)
  | none => do
    store.requirePreviousRound operationId round
    let position ← store.position operationId round page
    store.requireClosed barrier
    Checked.check (call.expired = false)
      (.storageIsolation "local pause page exceeds the query budget")
    let scan := store.database.scanPause barrier.runId position maxItems
    let captured := barrier.pausePage position scan round page maxItems call.timestamp
    Checked.check (captured.toDict.bytes arithmetic ≤ 1024 * 1024)
      (.storageIsolation "local pause facts exceed the receipt size limit")
    pure (captured, { store with pages := store.pages.put captured })

/-- The calls with the numbers from one on, one after another. -/
def capturePages (arithmetic : FloatArithmetic) (operationId : Identifier) (round maxItems : ℕ)
    (calls : ℕ → Call) : ℕ → ℕ → PauseStore → Except KernelError (List PausePage × PauseStore)
  | _, 0, store => .ok ([], store)
  | page, count + 1, store => do
    let (captured, store) ←
      captureControlPausePage arithmetic operationId round maxItems (calls page) page store
    let (later, store) ←
      capturePages arithmetic operationId round maxItems calls (page + 1) count store
    pure (captured :: later, store)

end PauseStore

/-! ### The order of the queries -/

instance string_lt_trans : IsTrans String (· < ·) :=
  ⟨fun _ _ _ first second => String.lt_trans first second⟩

instance string_lt_irrefl : Std.Irrefl (α := String) (· < ·) := ⟨String.lt_irrefl⟩

theorem Precedes.trans {first second third : String × String} (less : Precedes first second)
    (more : Precedes second third) : Precedes first third := by
  rcases less with less | ⟨same, less⟩
  · rcases more with more | ⟨equal, _⟩
    · exact .inl (String.lt_trans less more)
    · exact .inl (equal ▸ less)
  · rcases more with more | ⟨equal, more⟩
    · exact .inl (same ▸ more)
    · exact .inr ⟨same.trans equal, String.lt_trans less more⟩

instance : IsTrans (String × String) Precedes := ⟨fun _ _ _ => Precedes.trans⟩

instance : Std.Irrefl Precedes :=
  ⟨fun place => by
    rintro (less | ⟨_, less⟩)
    · exact String.lt_irrefl _ less
    · exact String.lt_irrefl _ less⟩

theorem precedes_of_not {left right : String × String} (not : ¬ Precedes right left) :
    left = right ∨ Precedes left right := by
  by_cases less : left.1 < right.1
  · exact .inr (.inl less)
  have first : left.1 = right.1 :=
    String.le_antisymm (String.not_lt.mp fun more => not (.inl more)) (String.not_lt.mp less)
  by_cases more : left.2 < right.2
  · exact .inr (.inr ⟨first, more⟩)
  · refine .inl (Prod.ext first (String.le_antisymm ?_ (String.not_lt.mp more)))
    exact String.not_lt.mp fun again => not (.inr ⟨first.symm, again⟩)

instance : Std.Total fun left right : EffectRow => ¬ Precedes right.place left.place :=
  ⟨fun left right => by
    by_cases less : Precedes right.place left.place
    · exact .inr fun more => Std.Irrefl.irrefl _ (less.trans more)
    · exact .inl less⟩

instance : IsTrans EffectRow fun left right => ¬ Precedes right.place left.place :=
  ⟨fun left middle right => by
    intro first second back
    rcases precedes_of_not first with same | less
    · exact second (same ▸ back)
    · rcases precedes_of_not second with same | more
      · exact first (same ▸ back)
      · exact Std.Irrefl.irrefl _ ((less.trans more).trans back)⟩

instance : Std.Total fun left right : ManagedExecution =>
    left.executionId.text ≤ right.executionId.text :=
  ⟨fun left right => String.le_total left.executionId.text right.executionId.text⟩

instance : IsTrans ManagedExecution fun left right =>
    left.executionId.text ≤ right.executionId.text :=
  ⟨fun _ _ _ first second => String.le_trans first second⟩

variable {database : Database} {runId : Identifier}

theorem mem_runMembers {member : ManagedExecution} :
    member ∈ database.runMembers runId ↔
      member ∈ database.managedExecutions ∧ member.runId = runId := by
  unfold Database.runMembers
  rw [mem_insertionSort, mem_filter, decide_eq_true_iff]
  exact Iff.rfl

theorem runMembers_ordered : (database.runMembers runId).Pairwise fun left right =>
    left.executionId.text < right.executionId.text := by
  have unique : (database.runMembers runId).Pairwise fun left right =>
      left.executionId ≠ right.executionId := by
    have rows := (pairwise_map.mp database.managedExecutions.unique).filter
      fun member => decide (member.runId = runId)
    exact ((perm_insertionSort _ _).pairwise_iff fun other => Ne.symm other).mpr rows
  refine ((pairwise_insertionSort _ _).and unique).imp fun {left right} both => ?_
  exact String.not_le.mp fun back =>
    both.2 (Identifier.ext (String.le_antisymm both.1 back))

variable {executionId : Identifier}

theorem mem_openEffects {effect : EffectRow} :
    effect ∈ database.openEffects executionId ↔ effect ∈ database.effects ∧
      effect.executionId = executionId ∧ effect.state.unfinished = true := by
  unfold Database.openEffects
  rw [mem_insertionSort, mem_filter, Bool.and_eq_true, decide_eq_true_iff]
  exact Iff.rfl

theorem openEffects_ordered :
    (database.openEffects executionId).Pairwise fun left right =>
      Precedes left.place right.place := by
  have unique : (database.openEffects executionId).Pairwise fun left right =>
      left.effectId ≠ right.effectId := by
    have rows := (pairwise_map.mp database.effects.unique).filter
      fun effect => decide (effect.executionId = executionId) && effect.state.unfinished
    exact ((perm_insertionSort _ _).pairwise_iff fun other => Ne.symm other).mpr rows
  refine ((pairwise_insertionSort _ _).and unique).imp fun {left right} both => ?_
  refine (precedes_of_not both.1).resolve_left fun same => both.2 (Identifier.ext ?_)
  exact congrArg Prod.snd same

theorem Identifier.start_lt (name : Identifier) : "" < name.text := by
  have filled := name.filled
  unfold blank at filled
  refine String.lt_iff.mpr ?_
  cases letters : name.text.toList with
  | nil =>
    rw [letters] at filled
    cases filled
  | cons => exact nil_lt_cons _ _

namespace PauseStore

variable {arithmetic : FloatArithmetic} {operationId : Identifier} {round maxItems : ℕ}
  {calls : ℕ → Call} {barrier : PauseReceipt} {database : Database}

/-! ### Where a round stands -/

/-- The barrier of an operation is closed, and a round of its capture may be made. -/
structure Closed (operationId : Identifier) (round maxItems : ℕ) (barrier : PauseReceipt)
    (store : PauseStore) : Prop where
  stored : store.database.pauseReceipts.find? operationId = some barrier
  isBarrier : barrier.isPauseBarrier = true
  gate : ∃ control ∈ store.database.runControls.find? barrier.runId,
    control.generation = barrier.generation ∧
      (control.state = .pausing ∨ control.state = .paused)
  before : store.requirePreviousRound operationId round = .ok ()
  representable : round ≤ maxSqliteInteger
  bounded : 1 ≤ maxItems ∧ maxItems ≤ 1000

/-- A number of pages of a round are stored, and the next one starts at a position. -/
structure Stands (operationId : Identifier) (round count : ℕ) (position : PausePosition)
    (store : PauseStore) : Prop where
  numbered : store.pages.Numbered (operationId, round) count
  next : store.position operationId round count = .ok position

/-- The errors of a page that is not representable, not found in time or too long. -/
def captureLimits : List KernelError :=
  [.value "expected_page must be a non-negative SQLite integer",
    .storageIsolation "local pause page exceeds the query budget",
    .storageIsolation "local pause facts exceed the receipt size limit"]

def Refuses (arithmetic : FloatArithmetic) (operationId : Identifier) (round maxItems : ℕ)
    (calls : ℕ → Call) (page : ℕ) (store : PauseStore) : Prop :=
  ∃ failure ∈ captureLimits, captureControlPausePage arithmetic operationId round maxItems
    (calls page) page store = .error failure

def pageAt (barrier : PauseReceipt) (database : Database) (round maxItems : ℕ)
    (position : PausePosition) (page : ℕ) (timestamp : Timestamp) : PausePage :=
  barrier.pausePage position (database.scanPause barrier.runId position maxItems) round page
    maxItems timestamp

def keep (store : PauseStore) (page : PausePage) : PauseStore :=
  { store with pages := store.pages.put page }

variable {store : PauseStore}

theorem capture_next {count : ℕ} {position : PausePosition}
    (closed : Closed operationId round maxItems barrier store)
    (stands : Stands operationId round count position store) :
    Refuses arithmetic operationId round maxItems calls count store ∨
      captureControlPausePage arithmetic operationId round maxItems (calls count) count store =
        .ok (pageAt barrier store.database round maxItems position count (calls count).timestamp,
          store.keep (pageAt barrier store.database round maxItems position count
            (calls count).timestamp)) := by
  have fresh : store.pages.find? ((operationId, round), count) = none :=
    Table.find?_eq_none_iff.mpr fun page stored same =>
      absurd (stands.numbered.below page stored (congrArg Prod.fst same))
        (by rw [same]; exact lt_irrefl count)
  have isolated : store.requireClosed barrier = .ok () := Checked.check_eq_ok.mpr closed.gate
  unfold Refuses captureControlPausePage
  simp only [closed.stored, fresh, stands.next, closed.before, isolated, Checked.present,
    Checked.check, if_pos closed.representable, if_pos closed.bounded, if_pos closed.isBarrier,
    bind, Except.bind, pure, Except.pure]
  by_cases small : count < maxSqliteInteger
  · rw [if_pos small]
    by_cases expired : (calls count).expired = false
    · rw [if_pos expired]
      by_cases fits : (pageAt barrier store.database round maxItems position count
          (calls count).timestamp).toDict.bytes arithmetic ≤ 1024 * 1024
      · rw [show barrier.pausePage position _ round count maxItems _ = pageAt barrier
          store.database round maxItems position count (calls count).timestamp from rfl, if_pos fits]
        exact .inr rfl
      · rw [show barrier.pausePage position _ round count maxItems _ = pageAt barrier
          store.database round maxItems position count (calls count).timestamp from rfl, if_neg fits]
        exact .inl ⟨_, mem_cons_of_mem _ (mem_cons_of_mem _ mem_cons_self), rfl⟩
    · rw [if_neg expired]
      exact .inl ⟨_, mem_cons_of_mem _ mem_cons_self, rfl⟩
  · rw [if_neg small]
    exact .inl ⟨_, mem_cons_self, rfl⟩

variable {page : PausePage}

theorem latest_put_other {pages : Table PausePage.key} {stream : Identifier × ℕ}
    (other : page.key.1 ≠ stream) : (pages.put page).latest stream = pages.latest stream := by
  have same : ((pages.put page).rows.filter fun row =>
      decide (row.key.1 = stream) && decide (0 ≤ row.key.2)) = pages.rows.filter fun row =>
        decide (row.key.1 = stream) && decide (0 ≤ row.key.2) := by
    unfold Table.put
    rw [filter_cons, decide_eq_false other, filter_filter]
    refine filter_congr fun row _ => ?_
    by_cases mine : row.key.1 = stream
    · have apart : row.key ≠ page.key := fun equal => other (equal ▸ mine)
      rw [decide_eq_true apart, Bool.and_true]
    · rw [decide_eq_false mine, Bool.false_and, Bool.false_and]
  unfold Table.latest Table.tail
  rw [same]

section

variable (closed : Closed operationId round maxItems barrier store)

include closed

theorem Closed.keep (own : page.key.1 = (operationId, round)) :
    Closed operationId round maxItems barrier (store.keep page) where
  stored := closed.stored
  isBarrier := closed.isBarrier
  gate := closed.gate
  before := by
    have earlier := closed.before
    unfold requirePreviousRound at earlier ⊢
    split
    · rfl
    · rename_i previous
      have other : page.key.1 ≠ (operationId, previous) := fun same => by
        have number := congrArg Prod.snd (own.symm.trans same)
        exact absurd number (Nat.succ_ne_self previous)
      unfold keep
      dsimp only at earlier ⊢
      rw [latest_put_other other]
      exact earlier
  representable := closed.representable
  bounded := closed.bounded

theorem Closed.pageAt_key (position : PausePosition) (count : ℕ) (timestamp : Timestamp) :
    (pageAt barrier store.database round maxItems position count timestamp).key =
      ((operationId, round), count) := by
  rw [← Table.key_of_find? closed.stored]
  rfl

end

theorem latest_keep {count : ℕ} {position : PausePosition}
    (stands : Stands operationId round count position store)
    (own : page.key = ((operationId, round), count)) :
    (store.keep page).pages.latest (operationId, round) = some page := by
  refine (stands.numbered.put own).latest_succ.trans ?_
  rw [← own]
  exact Table.find?_put_same _ _

theorem Stands.keep {count : ℕ} {position : PausePosition}
    (closed : Closed operationId round maxItems barrier store)
    (stands : Stands operationId round count position store) {timestamp : Timestamp}
    (more : (store.database.scanPause barrier.runId position maxItems).complete position = false) :
    Stands operationId round (count + 1)
      ((store.database.scanPause barrier.runId position maxItems).next position maxItems)
      (store.keep (pageAt barrier store.database round maxItems position count timestamp)) := by
  have own := closed.pageAt_key position count timestamp
  refine ⟨stands.numbered.put own, ?_⟩
  unfold PauseStore.position
  rw [latest_keep stands own]
  exact Checked.bind_eq_ok.mpr ⟨(), Checked.check_eq_ok.mpr ⟨rfl, more⟩, rfl⟩

/-! ### What a round lists -/

def listed (phase : PausePhase) (pages : List PausePage) : List PauseItem :=
  (pages.filter fun page => page.phase = phase).flatMap PausePage.items

theorem listed_cons (phase : PausePhase) (page : PausePage) (rest : List PausePage) :
    listed phase (page :: rest) =
      (if page.phase = phase then page.items else []) ++ listed phase rest := by
  unfold listed
  by_cases own : page.phase = phase
  · simp only [filter_cons, own, decide_true, if_true, flatMap_cons]
  · simp only [filter_cons, own, decide_false, Bool.false_eq_true, if_false, nil_append]

/-- The calls of a round come to its end, or to a page that is refused. -/
def Finishes (arithmetic : FloatArithmetic) (operationId : Identifier) (round maxItems : ℕ)
    (calls : ℕ → Call) (count : ℕ) (store : PauseStore) (executions effects : List PauseItem) :
    Prop :=
  ∃ number pages after, capturePages arithmetic operationId round maxItems calls count number
      store = .ok (pages, after) ∧
    (Refuses arithmetic operationId round maxItems calls (count + number) after ∨
      (after.pages.Numbered (operationId, round) (count + number) ∧
        (∃ last, after.pages.latest (operationId, round) = some last ∧
          last.captureComplete = true) ∧
        (∃ last ∈ pages.getLast?, last.captureComplete = true) ∧
        listed .executions pages = executions ∧ listed .effects pages = effects))

variable {count : ℕ} {position : PausePosition} {executions effects : List PauseItem}

theorem finishes_next (closed : Closed operationId round maxItems barrier store)
    (stands : Stands operationId round count position store)
    (more : (store.database.scanPause barrier.runId position maxItems).complete position = false)
    (rest : ∀ later, later.database = store.database →
      Closed operationId round maxItems barrier later →
      Stands operationId round (count + 1)
        ((store.database.scanPause barrier.runId position maxItems).next position maxItems) later →
      Finishes arithmetic operationId round maxItems calls (count + 1) later executions effects) :
    Finishes arithmetic operationId round maxItems calls count store
      ((if position.phase = .executions then
        (store.database.scanPause barrier.runId position maxItems).items else []) ++ executions)
      ((if position.phase = .effects then
        (store.database.scanPause barrier.runId position maxItems).items else []) ++ effects) := by
  rcases @capture_next arithmetic operationId round maxItems calls barrier store count position
      closed stands with refused | captured
  · exact ⟨0, [], store, rfl, .inl refused⟩
  · have own := closed.pageAt_key position count (calls count).timestamp
    obtain ⟨number, pages, after, made, outcome⟩ := rest (store.keep _) rfl
      (closed.keep (congrArg Prod.fst own)) (stands.keep closed more)
    refine ⟨number + 1, _ :: pages, after, Checked.bind_eq_ok.mpr ⟨_, captured,
      Checked.bind_eq_ok.mpr ⟨_, made, rfl⟩⟩, ?_⟩
    have number_eq : count + (number + 1) = count + 1 + number := by omega
    rw [number_eq]
    refine outcome.imp id ?_
    rintro ⟨numbered, latest, ⟨last, ends, complete⟩, listedExecutions, listedEffects⟩
    refine ⟨numbered, latest, ⟨last, ?_, complete⟩, ?_, ?_⟩
    · cases pages with
      | nil => cases ends
      | cons page others => rwa [List.getLast?_cons_cons]
    · rw [listed_cons, listedExecutions]
      rfl
    · rw [listed_cons, listedEffects]
      rfl

theorem finishes_last (closed : Closed operationId round maxItems barrier store)
    (stands : Stands operationId round count position store)
    (complete : (store.database.scanPause barrier.runId position maxItems).complete position = true)
    (none : (store.database.scanPause barrier.runId position maxItems).items = []) :
    Finishes arithmetic operationId round maxItems calls count store [] [] := by
  rcases @capture_next arithmetic operationId round maxItems calls barrier store count position
      closed stands with refused | captured
  · exact ⟨0, [], store, rfl, .inl refused⟩
  · have own := closed.pageAt_key position count (calls count).timestamp
    refine ⟨1, [_], _, Checked.bind_eq_ok.mpr ⟨_, captured,
      Checked.bind_eq_ok.mpr ⟨_, rfl, rfl⟩⟩, .inr ⟨stands.numbered.put own,
        ⟨_, latest_keep stands own, complete⟩, ⟨_, rfl, complete⟩, ?_, ?_⟩⟩ <;>
      rw [listed_cons, show (pageAt barrier store.database round maxItems position count
        (calls count).timestamp).items = [] from none, ite_self] <;> rfl

/-! ### The effects of one execution -/

/-- A page at a position lists the effects of an execution that come after a place. -/
structure Visits (database : Database) (runId : Identifier) (position : PausePosition)
    (member : ManagedExecution) (place : String × String) : Prop where
  phase : position.phase = .effects
  inside : position.effectContinue = true →
    position.cursor = ⟨member.executionId.text, place.1, place.2⟩
  first : position.effectContinue = false → place = ("", "") ∧
    (database.membersAfter runId position.cursor.execution).head? = some member

/-- The effects of an execution that come after a place. -/
def left (database : Database) (member : ManagedExecution) (place : String × String) :
    List EffectRow :=
  Keyset.after Precedes EffectRow.place place (database.openEffects member.executionId)

variable {member : ManagedExecution}

theorem find?_runMembers (stored : member ∈ database.runMembers runId) :
    ((database.runMembers runId).find? fun other =>
      other.executionId.text = member.executionId.text) = some member := by
  cases found : (database.runMembers runId).find? fun other =>
      other.executionId.text = member.executionId.text with
  | none => exact absurd (decide_eq_true rfl) (List.find?_eq_none.mp found member stored)
  | some other =>
    have same : other.executionId = member.executionId :=
      Identifier.ext (by simpa using List.find?_some found)
    exact congrArg some (Table.eq_of_key_eq (mem_runMembers.mp (mem_of_find?_eq_some found)).1
      (mem_runMembers.mp stored).1 same)

theorem Visits.scan {place : String × String} (visits : Visits database runId position member place)
    (stored : member ∈ database.runMembers runId) :
    database.scanPause runId position maxItems =
      ⟨((left database member place).map member.effectItem).take maxItems,
        some member.executionId.text⟩ := by
  unfold Database.scanPause
  rw [visits.phase]
  cases goes : position.effectContinue with
  | true =>
    simp only [if_true, visits.inside goes, Database.effectsAfter, find?_runMembers stored]
    rfl
  | false =>
    obtain ⟨rfl, head⟩ := visits.first goes
    simp only [Bool.false_eq_true, if_false, head, Option.map_some, Database.effectsAfter,
      find?_runMembers stored]
    rfl

/-- The effects of an execution are listed one page after the other. The induction is on how many
of them are left. -/
theorem member_finishes {runId : Identifier} (own : barrier.runId = runId)
    {member : ManagedExecution} (stored : member ∈ database.runMembers runId)
    (later : ∀ (count : ℕ) (store : PauseStore), store.database = database →
      Closed operationId round maxItems barrier store →
      Stands operationId round count ⟨.effects, ⟨member.executionId.text, "", ""⟩, false⟩ store →
      Finishes arithmetic operationId round maxItems calls count store [] effects)
    (remaining : ℕ) :
    ∀ (place : String × String) (position : PausePosition) (count : ℕ) (store : PauseStore),
      (left database member place).length ≤ remaining →
      Visits database runId position member place → store.database = database →
      Closed operationId round maxItems barrier store →
      Stands operationId round count position store →
      Finishes arithmetic operationId round maxItems calls count store []
        ((left database member place).map member.effectItem ++ effects) := by
  induction remaining using Nat.strong_induction_on with
  | _ remaining hypothesis =>
    intro place position count store short visits same closed stands
    have scan : store.database.scanPause barrier.runId position maxItems =
        ⟨((left database member place).map member.effectItem).take maxItems,
          some member.executionId.text⟩ := by
      rw [same, own]
      exact visits.scan stored
    have more : (store.database.scanPause barrier.runId position maxItems).complete position =
        false := by
      rw [scan]
      exact Bool.and_false _
    have other : position.phase ≠ .executions := by
      rw [visits.phase]
      exact PausePhase.noConfusion
    have goes := @finishes_next arithmetic operationId round maxItems calls barrier store count
      position [] (((left database member place).map member.effectItem).drop maxItems ++ effects)
      closed stands more
    rw [scan, if_neg other, if_pos visits.phase, nil_append, ← append_assoc,
      take_append_drop] at goes
    refine goes fun next unchanged closed' stands' => ?_
    unfold PauseScan.next at stands'
    rw [if_neg fun both => other both.1] at stands'
    simp only [visits.phase] at stands'
    rw [← map_take, List.getLast?_map] at stands'
    cases ends : ((left database member place).take maxItems).getLast? with
    | none =>
      rw [ends] at stands'
      have empty := List.getLast?_eq_none_iff.mp ends
      have small : (left database member place).length ≤ maxItems := by
        have counted := congrArg List.length empty
        rw [length_take, length_nil] at counted
        have positive := closed.bounded.1
        omega
      rw [← map_drop, drop_eq_nil_of_le small, map_nil, nil_append]
      exact later (count + 1) next (unchanged.trans same) closed' stands'
    | some last =>
      rw [ends] at stands'
      simp only [Option.map_some, length_map, length_take] at stands'
      by_cases full : min maxItems (left database member place).length = maxItems
      · rw [if_pos full] at stands'
        have dropped : left database member last.place = (left database member place).drop maxItems :=
          Keyset.after_take openEffects_ordered ends
        have fewer : (left database member last.place).length < remaining := by
          rw [dropped, length_drop]
          have positive := closed.bounded.1
          omega
        rw [← map_drop, ← dropped]
        refine hypothesis _ fewer last.place _ (count + 1) next le_rfl ⟨rfl, fun _ => rfl,
          fun stops => Bool.noConfusion stops⟩ (unchanged.trans same) closed' stands'
      · rw [if_neg full] at stands'
        have small : (left database member place).length ≤ maxItems := by omega
        rw [← map_drop, drop_eq_nil_of_le small, map_nil, nil_append]
        exact later (count + 1) next (unchanged.trans same) closed' stands'

/-! ### The whole round -/

/-- The effects of the executions that are left. -/
def effectItems (database : Database) (members : List ManagedExecution) : List PauseItem :=
  members.flatMap fun member => (database.openEffects member.executionId).map member.effectItem

theorem start_lt_state (state : EffectState) : "" < state.text := by
  cases state <;> decide

theorem left_all (database : Database) (member : ManagedExecution) :
    left database member ("", "") = database.openEffects member.executionId :=
  Keyset.after_all fun effect _ => .inl (start_lt_state effect.state)

theorem membersAfter_start (database : Database) (runId : Identifier) :
    database.membersAfter runId "" = database.runMembers runId :=
  Keyset.after_all fun member _ => member.executionId.start_lt

theorem membersAfter_take {cursor : String} {size : ℕ} {last : ManagedExecution}
    (full : ((database.membersAfter runId cursor).take size).getLast? = some last) :
    database.membersAfter runId last.executionId.text =
      (database.membersAfter runId cursor).drop size :=
  Keyset.after_take runMembers_ordered full

/-- The effects of one execution after the other are listed. The induction is on the executions
that are left. -/
theorem effects_finish (members : List ManagedExecution) :
    ∀ (cursor : PauseCursor) (count : ℕ) (store : PauseStore),
      database.membersAfter barrier.runId cursor.execution = members →
      store.database = database → Closed operationId round maxItems barrier store →
      Stands operationId round count ⟨.effects, cursor, false⟩ store →
      Finishes arithmetic operationId round maxItems calls count store []
        (effectItems database members) := by
  induction members with
  | nil =>
    intro cursor count store none same closed stands
    have scan : store.database.scanPause barrier.runId ⟨.effects, cursor, false⟩ maxItems =
        ⟨[], Option.none⟩ := by
      unfold Database.scanPause
      simp only [same, none]
      rfl
    refine finishes_last closed stands ?_ ?_
    · rw [scan]
      rfl
    · rw [scan]
  | cons member rest hypothesis =>
    intro cursor count store some same closed stands
    have there : member ∈ database.runMembers barrier.runId := by
      have inside : member ∈ database.membersAfter barrier.runId cursor.execution := by
        rw [some]
        exact mem_cons_self
      exact (Keyset.mem_after.mp inside).1
    have behind : database.membersAfter barrier.runId member.executionId.text = rest := by
      have first : ((database.membersAfter barrier.runId cursor.execution).take 1).getLast? =
          Option.some member := by
        rw [some]
        rfl
      rw [membersAfter_take first, some]
      rfl
    have visits : Visits database barrier.runId ⟨.effects, cursor, false⟩ member ("", "") :=
      ⟨rfl, nofun, fun _ => ⟨rfl, by rw [some]; rfl⟩⟩
    have finishes := @member_finishes arithmetic operationId round maxItems calls barrier database
      (effectItems database rest) barrier.runId rfl member there
      (fun count store same closed stands =>
        hypothesis ⟨member.executionId.text, "", ""⟩ count store behind same closed stands)
      (left database member ("", "")).length ("", "") _ count store le_rfl visits same closed stands
    rw [left_all] at finishes
    exact finishes

/-- The executions are listed, and then their effects. The induction is on how many executions
are left. -/
theorem executions_finish (remaining : ℕ) :
    ∀ (cursor : PauseCursor) (count : ℕ) (store : PauseStore),
      (database.membersAfter barrier.runId cursor.execution).length ≤ remaining →
      store.database = database → Closed operationId round maxItems barrier store →
      Stands operationId round count ⟨.executions, cursor, false⟩ store →
      Finishes arithmetic operationId round maxItems calls count store
        ((database.membersAfter barrier.runId cursor.execution).map database.executionItem)
        (effectItems database (database.runMembers barrier.runId)) := by
  induction remaining using Nat.strong_induction_on with
  | _ remaining hypothesis =>
    intro cursor count store short same closed stands
    have scan : store.database.scanPause barrier.runId ⟨.executions, cursor, false⟩ maxItems =
        ⟨((database.membersAfter barrier.runId cursor.execution).take maxItems).map
          database.executionItem, none⟩ := by
      rw [same]
      rfl
    have goes := @finishes_next arithmetic operationId round maxItems calls barrier store count
      ⟨.executions, cursor, false⟩
      (((database.membersAfter barrier.runId cursor.execution).drop maxItems).map
        database.executionItem) (effectItems database (database.runMembers barrier.runId))
      closed stands rfl
    rw [scan, if_pos rfl, if_neg PausePhase.noConfusion, nil_append, ← map_append,
      take_append_drop] at goes
    refine goes fun next unchanged closed' stands' => ?_
    unfold PauseScan.next at stands'
    simp only [length_map, length_take, true_and] at stands'
    by_cases full : min maxItems
        (database.membersAfter barrier.runId cursor.execution).length < maxItems
    · rw [if_pos full] at stands'
      have small : (database.membersAfter barrier.runId cursor.execution).length ≤ maxItems := by
        omega
      rw [drop_eq_nil_of_le small, map_nil]
      exact @effects_finish arithmetic operationId round maxItems calls barrier database
        (database.runMembers barrier.runId) .start (count + 1) next
        (membersAfter_start database barrier.runId) (unchanged.trans same) closed' stands'
    · rw [if_neg full, List.getLast?_map] at stands'
      cases ends : ((database.membersAfter barrier.runId cursor.execution).take maxItems).getLast? with
      | none =>
        have empty := congrArg List.length (List.getLast?_eq_none_iff.mp ends)
        rw [length_take, length_nil] at empty
        have positive := closed.bounded.1
        omega
      | some last =>
        rw [ends] at stands'
        have fewer : (database.membersAfter barrier.runId last.executionId.text).length <
            remaining := by
          rw [membersAfter_take ends, length_drop]
          have positive := closed.bounded.1
          omega
        rw [← membersAfter_take ends]
        exact hypothesis _ fewer (database.executionItem last).cursor (count + 1) next le_rfl
          (unchanged.trans same) closed' stands'

theorem fresh_stands (fresh : store.pages.Numbered (operationId, round) 0) :
    Stands operationId round 0 ⟨.executions, .start, false⟩ store := by
  refine ⟨fresh, ?_⟩
  unfold position
  cases latest : store.pages.latest (operationId, round) with
  | none => rfl
  | some last =>
    obtain ⟨number, zero, _⟩ := fresh.of_latest_some latest
    cases zero

/-! ### Replays -/

variable {number : ℕ}

variable {after : PauseStore}

theorem captured_stored {call : Call}
    (captured : captureControlPausePage arithmetic operationId round maxItems call number store =
      .ok (page, after)) :
    after.database = store.database ∧
      (∀ key old, store.pages.find? key = some old → after.pages.find? key = some old) ∧
      after.pages.find? ((operationId, round), number) = some page ∧ page.maxItems = maxItems ∧
      number < maxSqliteInteger ∧ (store.pages.find? ((operationId, round), number) = none →
        page.toDict.bytes arithmetic ≤ 1024 * 1024) := by
  unfold captureControlPausePage at captured
  obtain ⟨_, small, captured⟩ := Checked.bind_eq_ok.mp captured
  obtain ⟨_, _, captured⟩ := Checked.bind_eq_ok.mp captured
  obtain ⟨_, _, captured⟩ := Checked.bind_eq_ok.mp captured
  obtain ⟨found, stored, captured⟩ := Checked.bind_eq_ok.mp captured
  obtain ⟨_, _, captured⟩ := Checked.bind_eq_ok.mp captured
  have small := Checked.check_eq_ok.mp small
  split at captured
  · rename_i old there
    obtain ⟨_, same, answered⟩ := Checked.bind_eq_ok.mp captured
    cases answered
    refine ⟨rfl, fun _ _ found => found, there, Checked.check_eq_ok.mp same, small, fun absent => ?_⟩
    cases there.symm.trans absent
  · rename_i absent
    obtain ⟨_, _, captured⟩ := Checked.bind_eq_ok.mp captured
    obtain ⟨position, _, captured⟩ := Checked.bind_eq_ok.mp captured
    obtain ⟨_, _, captured⟩ := Checked.bind_eq_ok.mp captured
    obtain ⟨_, _, captured⟩ := Checked.bind_eq_ok.mp captured
    obtain ⟨_, fits, answered⟩ := Checked.bind_eq_ok.mp captured
    cases answered
    have fits := Checked.check_eq_ok.mp fits
    have own : found.operationId = operationId :=
      Table.key_of_find? (Checked.present_eq_ok.mp stored)
    subst own
    refine ⟨rfl, fun key old found => ?_, Table.find?_put_same _ _, rfl, small, fun _ => fits⟩
    refine (Table.find?_put_other _ fun same => ?_).trans found
    rw [same] at found
    cases found.symm.trans absent

theorem capture_again (closed : Closed operationId round maxItems barrier store)
    (unchanged : after.database = store.database)
    (there : after.pages.find? ((operationId, round), number) = some page)
    (same : page.maxItems = maxItems) (small : number < maxSqliteInteger) (call : Call) :
    captureControlPausePage arithmetic operationId round maxItems call number after =
      .ok (page, after) := by
  unfold captureControlPausePage
  simp only [unchanged, closed.stored, there, Checked.present, Checked.check, if_pos closed.representable,
    if_pos closed.bounded, if_pos closed.isBarrier, if_pos same, if_pos small, bind, Except.bind,
    pure, Except.pure]

theorem captured_pages :
    ∀ {start : ℕ} {store after : PauseStore} {pages : List PausePage},
      capturePages arithmetic operationId round maxItems calls start number store =
        .ok (pages, after) →
      after.database = store.database ∧
        (∀ key old, store.pages.find? key = some old → after.pages.find? key = some old) ∧
        ∀ index page, pages[index]? = some page →
          after.pages.find? ((operationId, round), start + index) = some page ∧
            page.maxItems = maxItems ∧ start + index < maxSqliteInteger := by
  induction number with
  | zero =>
    intro start store after pages made
    cases made
    exact ⟨rfl, fun _ _ found => found, fun _ _ nothing => absurd nothing (by simp)⟩
  | succ number hypothesis =>
    intro start store after pages made
    obtain ⟨⟨page, between⟩, first, made⟩ := Checked.bind_eq_ok.mp made
    obtain ⟨⟨others, last⟩, rest, answered⟩ := Checked.bind_eq_ok.mp made
    cases answered
    obtain ⟨same, kept, there, limit, small, _⟩ := captured_stored first
    obtain ⟨sameToo, keptToo, each⟩ := hypothesis rest
    refine ⟨sameToo.trans same, fun key old found => keptToo key old (kept key old found),
      fun index page found => ?_⟩
    cases index with
    | zero =>
      cases found
      exact ⟨keptToo _ _ there, limit, small⟩
    | succ index =>
      have shifted := each index page found
      rwa [show start + 1 + index = start + (index + 1) by omega] at shifted

theorem captured_prefix :
    ∀ {start few : ℕ} {store after : PauseStore} {pages : List PausePage}, few ≤ number →
      capturePages arithmetic operationId round maxItems calls start number store =
        .ok (pages, after) →
      ∃ middle, capturePages arithmetic operationId round maxItems calls start few store =
        .ok (pages.take few, middle) := by
  induction number with
  | zero =>
    intro start few store after pages less made
    obtain rfl := Nat.le_zero.mp less
    exact ⟨store, by rw [take_zero]; rfl⟩
  | succ number hypothesis =>
    intro start few store after pages less made
    cases few with
    | zero => exact ⟨store, by rw [take_zero]; rfl⟩
    | succ few =>
      obtain ⟨⟨page, between⟩, first, made⟩ := Checked.bind_eq_ok.mp made
      obtain ⟨⟨others, last⟩, rest, answered⟩ := Checked.bind_eq_ok.mp made
      cases answered
      obtain ⟨middle, again⟩ := hypothesis (Nat.le_of_succ_le_succ less) rest
      exact ⟨middle, Checked.bind_eq_ok.mpr ⟨_, first, Checked.bind_eq_ok.mpr ⟨_, again, rfl⟩⟩⟩

/-! ### The claim about a round -/

/-- A round lists every execution of the Run and every open effect of them once. -/
structure Lists (database : Database) (runId : Identifier) (pages : List PausePage) : Prop where
  executionsOnce : (listed .executions pages).Nodup
  executions : ∀ item, item ∈ listed .executions pages ↔
    ∃ member ∈ database.managedExecutions, member.runId = runId ∧
      item = database.executionItem member
  effectsOnce : (listed .effects pages).Nodup
  effects : ∀ item, item ∈ listed .effects pages ↔
    ∃ member ∈ database.managedExecutions, member.runId = runId ∧
      ∃ effect ∈ database.effects, effect.executionId = member.executionId ∧
        effect.state.unfinished = true ∧ item = member.effectItem effect

theorem lists_of_listed {pages : List PausePage} (executions : listed .executions pages =
      (database.runMembers runId).map database.executionItem)
    (effects : listed .effects pages = effectItems database (database.runMembers runId)) :
    Lists database runId pages where
  executionsOnce := by
    rw [executions]
    refine pairwise_map.mpr (runMembers_ordered.imp fun {left right} less same => ?_)
    have named : left.executionId = right.executionId := by
      injection same
    rw [named] at less
    exact String.lt_irrefl _ less
  executions item := by
    rw [executions, mem_map]
    refine ⟨fun ⟨member, stored, same⟩ => ?_, fun ⟨member, stored, own, same⟩ => ?_⟩
    · exact ⟨member, (mem_runMembers.mp stored).1, (mem_runMembers.mp stored).2, same.symm⟩
    · exact ⟨member, mem_runMembers.mpr ⟨stored, own⟩, same.symm⟩
  effectsOnce := by
    rw [effects, effectItems, nodup_flatMap]
    refine ⟨fun member _ => ?_, runMembers_ordered.imp fun {left right} less => ?_⟩
    · refine pairwise_map.mpr (openEffects_ordered.imp fun {left right} less same => ?_)
      have named : left.effectId = right.effectId ∧ left.state = right.state := by
        injection same with effectId _ state
        exact ⟨effectId, state⟩
      unfold EffectRow.place at less
      rw [named.1, named.2] at less
      exact Std.Irrefl.irrefl _ less
    · intro item inLeft inRight
      obtain ⟨effect, there, rfl⟩ := mem_map.mp inLeft
      obtain ⟨other, thereToo, same⟩ := mem_map.mp inRight
      have owner : other.executionId = effect.executionId := by
        injection same
      have named : left.executionId = right.executionId :=
        (mem_openEffects.mp there).2.1.symm.trans
          (owner.symm.trans (mem_openEffects.mp thereToo).2.1)
      rw [named] at less
      exact String.lt_irrefl _ less
  effects item := by
    rw [effects, effectItems, mem_flatMap]
    refine ⟨fun ⟨member, stored, inside⟩ => ?_, ?_⟩
    · obtain ⟨effect, there, same⟩ := mem_map.mp inside
      obtain ⟨found, owner, unfinished⟩ := mem_openEffects.mp there
      exact ⟨member, (mem_runMembers.mp stored).1, (mem_runMembers.mp stored).2, effect, found,
        owner, unfinished, same.symm⟩
    · rintro ⟨member, stored, own, effect, there, owner, unfinished, rfl⟩
      exact ⟨member, mem_runMembers.mpr ⟨stored, own⟩,
        mem_map_of_mem (mem_openEffects.mpr ⟨there, owner, unfinished⟩)⟩

theorem capture_beyond {last : PausePage}
    (numbered : store.pages.Numbered (operationId, round) number)
    (latest : store.pages.latest (operationId, round) = some last)
    (complete : last.captureComplete = true) {index : ℕ} (beyond : number ≤ index) (call : Call)
    (items : ℕ) :
    ∃ failure, captureControlPausePage arithmetic operationId round items call index store =
      .error failure := by
  cases captured : captureControlPausePage arithmetic operationId round items call index store with
  | error failure => exact ⟨failure, rfl⟩
  | ok answer =>
    have fresh : store.pages.find? ((operationId, round), index) = none :=
      Table.find?_eq_none_iff.mpr fun page stored same => by
        have below := numbered.below page stored (congrArg Prod.fst same)
        rw [same] at below
        exact absurd below (Nat.not_lt.mpr beyond)
    unfold captureControlPausePage position at captured
    rw [fresh, latest] at captured
    simp only [Checked.bind_eq_ok, Checked.check_eq_ok, complete, Bool.true_eq_false, and_false,
      false_and, exists_false] at captured

/-- While the tables do not change, a round whose pages are asked for one after another has in the
end listed every execution of the Run and every open effect of them once, unless one of its pages is
refused; earlier pages are answered again as they were. -/
theorem capture_covers (closed : Closed operationId round maxItems barrier store)
    (fresh : store.pages.Numbered (operationId, round) 0) :
    ∃ number pages after, capturePages arithmetic operationId round maxItems calls 0 number store =
        .ok (pages, after) ∧
      (∀ few ≤ number, ∃ middle,
        capturePages arithmetic operationId round maxItems calls 0 few store =
          .ok (pages.take few, middle) ∧
        ∀ index page, (pages.take few)[index]? = some page → ∀ call,
          captureControlPausePage arithmetic operationId round maxItems call index middle =
            .ok (page, middle)) ∧
      (Refuses arithmetic operationId round maxItems calls number after ∨
        ((∃ last ∈ pages.getLast?, last.captureComplete = true) ∧
          Lists store.database barrier.runId pages ∧
          ∀ index ≥ number, ∀ call items, ∃ failure,
            captureControlPausePage arithmetic operationId round items call index after =
              .error failure)) := by
  obtain ⟨number, pages, after, made, outcome⟩ :=
    @executions_finish arithmetic operationId round maxItems calls barrier store.database _ .start 0
      store le_rfl rfl closed (fresh_stands fresh)
  rw [Nat.zero_add] at outcome
  refine ⟨number, pages, after, made, fun few less => ?_, outcome.imp id ?_⟩
  · obtain ⟨middle, again⟩ := captured_prefix less made
    obtain ⟨same, _, each⟩ := captured_pages again
    refine ⟨middle, again, fun index page found call => ?_⟩
    obtain ⟨there, limit, small⟩ := each index page found
    rw [Nat.zero_add] at there small
    exact capture_again closed same there limit small call
  · rintro ⟨numbered, ⟨latest, ends, complete⟩, last, listedExecutions, listedEffects⟩
    have all : listed .executions pages =
        (store.database.runMembers barrier.runId).map store.database.executionItem := by
      rw [← membersAfter_start]
      exact listedExecutions
    exact ⟨last, lists_of_listed all listedEffects, fun index beyond call items =>
      capture_beyond numbered ends complete beyond call items⟩

/-! ### A page that is too long -/

theorem mem_separated {texts : List Json.Text} {text : Json.Text} {lexeme : Json.Lexeme}
    (inside : lexeme ∈ text) (member : text ∈ texts) : lexeme ∈ Json.separated texts := by
  induction texts with
  | nil => cases member
  | cons first rest hypothesis =>
    cases rest with
    | nil => exact mem_singleton.mp member ▸ inside
    | cons second rest =>
      unfold Json.separated
      rcases mem_cons.mp member with rfl | later
      · exact mem_append_left _ inside
      · exact mem_append_right _ (mem_cons_of_mem _ (hypothesis later))

theorem mem_encode_array {items : List Json} {item : Json} {lexeme : Json.Lexeme}
    (inside : lexeme ∈ item.encode) (member : item ∈ items) : lexeme ∈ (Json.array items).encode := by
  have encoded : item.encode ∈ Json.encodeItems items := by
    induction items with
    | nil => cases member
    | cons first rest hypothesis =>
      unfold Json.encodeItems
      rcases mem_cons.mp member with rfl | later
      · exact mem_cons_self
      · exact mem_cons_of_mem _ (hypothesis later)
  unfold Json.encode
  exact mem_append_left _ (mem_cons_of_mem _ (mem_separated inside encoded))

theorem mem_encode_object {fields : List (String × Json)} {name : String} {value : Json}
    {lexeme : Json.Lexeme} (inside : lexeme ∈ value.encode) (member : (name, value) ∈ fields) :
    lexeme ∈ (Json.object fields).encode := by
  have encoded : (name, value.encode) ∈ Json.encodeFields fields := by
    induction fields with
    | nil => cases member
    | cons first rest hypothesis =>
      obtain ⟨other, content⟩ := first
      unfold Json.encodeFields
      rcases mem_cons.mp member with same | later
      · cases same
        exact mem_cons_self
      · exact mem_cons_of_mem _ (hypothesis later)
  unfold Json.encode
  refine mem_append_left _ (mem_cons_of_mem _ (mem_separated ?_
    (mem_map_of_mem (mem_insertionSort _ |>.mpr encoded))))
  exact mem_cons_of_mem _ (mem_cons_of_mem _ inside)

theorem bytes_le_of_mem {value : Json} {lexeme : Json.Lexeme} (inside : lexeme ∈ value.encode) :
    lexeme.bytes arithmetic ≤ value.bytes arithmetic :=
  single_le_sum (fun _ _ => Nat.zero_le _) _ (mem_map_of_mem inside)

def nameOf (length : ℕ) : Identifier where
  text := String.ofList (List.replicate (length + 1) 'a')
  filled := by
    unfold blank
    rw [String.toList_ofList, replicate_succ]
    rfl

/-- A closed barrier of a Run that has one managed execution with a name of a given length. -/
def sampleStore (length : ℕ) : PauseStore where
  database := { Database.initial (nameOf 0) with
    pauseReceipts := (∅ : Table PauseReceipt.operationId).put
      { operationId := nameOf 0, runId := nameOf 0, generation := 1, expectedEpoch := 1
        controlEpoch := 2, storeId := nameOf 0, fact := .pauseBarrier 0 0 1 1 [] none }
    runControls := (∅ : Table RunControl.runId).put
      { runId := nameOf 0, controlEpoch := 2, generation := 1, state := .pausing, maxClaims := 1
        claimsUsed := 0, deadlineAt := 1 }
    managedExecutions := (∅ : Table ManagedExecution.executionId).put
      { executionId := nameOf length, runId := nameOf 0, generation := 1, drainAllowed := false } }
  pages := ∅

def sampleBarrier : PauseReceipt where
  operationId := nameOf 0
  runId := nameOf 0
  generation := 1
  expectedEpoch := 1
  controlEpoch := 2
  storeId := nameOf 0
  fact := .pauseBarrier 0 0 1 1 [] none

theorem sampleStore_closed (length : ℕ) :
    Closed (nameOf 0) 0 1 sampleBarrier (sampleStore length) where
  stored := Table.find?_put_same _ _
  isBarrier := rfl
  gate := ⟨_, Table.find?_put_same _ _, rfl, .inl rfl⟩
  before := rfl
  representable := Nat.zero_le _
  bounded := ⟨le_rfl, by decide⟩

theorem sampleStore_fresh (length : ℕ) : (sampleStore length).pages.Numbered (nameOf 0, 0) 0 :=
  Table.numbered_empty _

theorem capture_covers_sample :
    ∃ number pages after, capturePages .exact (nameOf 0) 0 1 (fun _ => ⟨0, false⟩) 0 number
        (sampleStore 0) = .ok (pages, after) ∧
      (Refuses .exact (nameOf 0) 0 1 (fun _ => ⟨0, false⟩) number after ∨
        ((∃ last ∈ pages.getLast?, last.captureComplete = true) ∧
          Lists (sampleStore 0).database sampleBarrier.runId pages)) := by
  obtain ⟨number, pages, after, made, _, outcome⟩ :=
    @capture_covers .exact (nameOf 0) 0 1 (fun _ => ⟨0, false⟩) sampleBarrier (sampleStore 0)
      (sampleStore_closed 0) (sampleStore_fresh 0)
  exact ⟨number, pages, after, made, outcome.imp id fun both => ⟨both.1, both.2.1⟩⟩

theorem nameOf_bytes (length : ℕ) :
    Json.Lexeme.bytes .exact (.string (nameOf length).text) = 2 + (length + 1) := by
  show 2 + ((nameOf length).text.toList.map Json.Lexeme.bytes.escaped).sum = _
  unfold nameOf
  rw [String.toList_ofList, map_replicate, sum_replicate]
  exact congrArg (2 + ·) (Nat.mul_one (length + 1))

theorem sampleStore_long (length : ℕ) (timestamp : Timestamp) :
    length < (pageAt sampleBarrier (sampleStore length).database 0 1
      ⟨.executions, .start, false⟩ 0 timestamp).toDict.bytes .exact := by
  have members : (sampleStore length).database.membersAfter (nameOf 0) "" =
      [⟨nameOf length, nameOf 0, 1, false⟩] := membersAfter_start _ _
  have items : (pageAt sampleBarrier (sampleStore length).database 0 1
      ⟨.executions, .start, false⟩ 0 timestamp).items = [.execution (nameOf length) 1 none] := by
    show (((sampleStore length).database.membersAfter (nameOf 0) "").take 1).map _ = _
    rw [members]
    rfl
  have shown : Json.Lexeme.string (nameOf length).text ∈ (pageAt sampleBarrier
      (sampleStore length).database 0 1 ⟨.executions, .start, false⟩ 0 timestamp).toDict.encode := by
    unfold PausePage.toDict
    rw [items]
    refine @mem_encode_object _ "items" _ _ (@mem_encode_array _
      (PauseItem.execution (nameOf length) 1 none).toDict _ ?_ (mem_singleton_self _)) (by simp)
    exact @mem_encode_object _ "execution_id" _ _ (mem_singleton_self _) mem_cons_self
  have long := @bytes_le_of_mem .exact _ _ shown
  rw [nameOf_bytes] at long
  omega

/-- An identifier may be longer than a page may be, and then the capture never ends. -/
theorem capture_not_complete :
    ¬ ∀ (operationId : Identifier) (round maxItems : ℕ) (barrier : PauseReceipt)
      (store : PauseStore), Closed operationId round maxItems barrier store →
      store.pages.Numbered (operationId, round) 0 →
      ∃ number pages after, capturePages .exact operationId round maxItems
          (fun _ => ⟨0, false⟩) 0 number store = .ok (pages, after) ∧
        ∃ last ∈ pages.getLast?, last.captureComplete = true := by
  intro all
  obtain ⟨number, pages, after, made, last, ends, _⟩ := all (nameOf 0) 0 1 sampleBarrier
    (sampleStore (1024 * 1024)) (sampleStore_closed _) (sampleStore_fresh _)
  cases number with
  | zero =>
    cases made
    cases ends
  | succ number =>
    obtain ⟨⟨page, between⟩, first, _⟩ := Checked.bind_eq_ok.mp made
    rcases @capture_next .exact (nameOf 0) 0 1 (fun _ => ⟨0, false⟩) sampleBarrier
      (sampleStore (1024 * 1024)) 0 ⟨.executions, .start, false⟩ (sampleStore_closed _)
      (fresh_stands (sampleStore_fresh _)) with ⟨failure, _, refused⟩ | captured
    · cases first.symm.trans refused
    · obtain ⟨_, _, _, _, _, fits⟩ := captured_stored captured
      have short := fits rfl
      exact absurd short (Nat.not_le.mpr (sampleStore_long (1024 * 1024) 0))

end PauseStore

end DispatcherSdk.ExecutionKernel
