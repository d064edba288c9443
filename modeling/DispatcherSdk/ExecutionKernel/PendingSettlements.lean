/-
This file models the settlement journal, the store in which the runtime keeps the result of
an attempt until the Kernel has accepted it, and the cache of outcomes it has not accepted yet.

`record` inserts a row or compares with the one that is there, `settle` changes the state of a
row if its revision is the expected one. A token of the cache is known by the position in which
it was granted.
-/

import DispatcherSdk.ExecutionKernel.Contracts
import DispatcherSdk.Library.Attempt
import DispatcherSdk.Library.Table
import DispatcherSdk.Library.Transition

namespace DispatcherSdk.ExecutionKernel

open Library Library.Checked Table List

/-! ### Errors -/

/-- The exception classes the journal raises. -/
inductive SettlementErrorKind where
  | conflict
  | binding
  | busy
  | value
  | type
  | key

structure SettlementError where
  kind : SettlementErrorKind
  message : String

namespace SettlementError

def conflict (message : String) : SettlementError := ⟨.conflict, message⟩
def binding (message : String) : SettlementError := ⟨.binding, message⟩
def busy (message : String) : SettlementError := ⟨.busy, message⟩
def value (message : String) : SettlementError := ⟨.value, message⟩
def type (message : String) : SettlementError := ⟨.type, message⟩
def key (message : String) : SettlementError := ⟨.key, message⟩

end SettlementError

/-! ### Rows -/

structure SettlementKey where
  executionId : Identifier
  attempt : ℕ
  fence : ℕ
  deriving DecidableEq

inductive SettlementState where
  | pending
  | recorded
  | superseded
  | recoveryRequired
  | error
  deriving DecidableEq

namespace SettlementState

def text : SettlementState → String
  | pending => "pending"
  | recorded => "recorded"
  | superseded => "superseded"
  | recoveryRequired => "recovery_required"
  | error => "error"

/-- `state not in _STATES`. -/
def ofText (text : String) : Option SettlementState :=
  [pending, recorded, superseded, recoveryRequired, error].find? fun state => state.text = text

/-- `state in _TERMINAL`. -/
def terminal : SettlementState → Bool
  | recorded | superseded => true
  | pending | recoveryRequired | error => false

end SettlementState

inductive PayloadKind where
  | result
  | deferred
  deriving DecidableEq

/-- What an attempt has left behind: a result, or an outcome that is yet to become one. -/
inductive SettlementPayload where
  | result (result : ExecutionResult)
  | deferred (kind : Identifier) (outcome : Json)

namespace SettlementPayload

def kind : SettlementPayload → PayloadKind
  | result _ => .result
  | deferred .. => .deferred

def toDict : SettlementPayload → Json
  | result value => value.toDict
  | deferred kind outcome => .object [("kind", kind.toJson), ("outcome", outcome)]

end SettlementPayload

/-- `settlement_records`. -/
structure SettlementRow where
  key : SettlementKey
  leaseJson : Json.Text
  payloadKind : PayloadKind
  payloadJson : Json.Text
  state : SettlementState
  evidenceJson : Json.Text
  revision : ℕ
  createdAt : Timestamp
  updatedAt : Timestamp

inductive SettlementChange where
  | recorded (row : SettlementRow)
  | settled (key : SettlementKey)

/-- The obligations of a journal, and the changes it has accepted, the last one first. -/
structure SettlementJournal where
  records : Table SettlementRow.key
  changes : List SettlementChange

/-! ### Identities -/

inductive SettlementIdentity where
  | lease (lease : ExecutionLease)
  | mapping (fields : List (String × Json))

/-- `type(value) is int and value >= minimum`. -/
def boundedInt (minimum : ℕ) : Json → Option ℕ
  | .int value => if (minimum : ℤ) ≤ value then some value.toNat else none
  | _ => none

def identifierOf : Json → Option Identifier
  | .string text => Identifier.ofText text
  | _ => none

/-- `_key`. -/
def settlementKey (allowUnclaimed : Bool) :
    SettlementIdentity → Except SettlementError SettlementKey
  | .lease lease => .ok ⟨lease.executionId, lease.attempt, lease.fence⟩
  | .mapping fields => do
    let values ← match Json.get? fields "identity" with
      | none => .ok fields
      | some (.object inner) => .ok inner
      | some _ => .error (.type "identity is not a mapping")
    let name ← present (Json.get? values "execution_id") (.key "execution_id")
    let executionId ← present (identifierOf name)
      (.value "execution_id must be a non-empty string")
    let attempt ← present (Json.get? values "attempt") (.key "attempt")
    let fence ← present (Json.get? values "fence") (.key "fence")
    let minimum := if allowUnclaimed then 0 else 1
    let refused := SettlementError.value (if allowUnclaimed then
      "attempt and fence must be nonnegative integers"
      else "attempt and fence must be positive integers")
    let attempt ← present (boundedInt minimum attempt) refused
    let fence ← present (boundedInt minimum fence) refused
    return ⟨executionId, attempt, fence⟩

/-- `type(evidence) is not dict`, and the text of what is one. -/
def evidenceText (message : String) : Json → Except SettlementError Json.Text
  | .object fields => .ok (Json.object fields).encode
  | _ => .error (.type message)

namespace SettlementJournal

variable (journal : SettlementJournal)

/-! ### Calls -/

/-- A result is one of the attempt that the lease is for. -/
def checkPayload (key : SettlementKey) : SettlementPayload → Except SettlementError Unit
  | .result result =>
    check (result.executionId = key.executionId ∧ result.attempt = key.attempt ∧
        result.fence = key.fence) (.conflict "result identity differs from its lease")
  | .deferred .. => .ok ()

/-- `record`, at a sample of the wall clock. -/
def record (now : Timestamp) (lease : ExecutionLease) (payload : SettlementPayload)
    (evidence : Option Json) : Except SettlementError (SettlementRow × SettlementJournal) := do
  let key : SettlementKey := ⟨lease.executionId, lease.attempt, lease.fence⟩
  checkPayload key payload
  let evidenceJson ← evidenceText "evidence must be a strict JSON object or None"
    (evidence.getD (.object []))
  match journal.records.find? key with
  | some row =>
    check (row.leaseJson = lease.toDict.encode ∧ row.payloadKind = payload.kind ∧
        row.payloadJson = payload.toDict.encode)
      (.conflict "settlement obligation contents differ")
    return (row, journal)
  | none =>
    let row : SettlementRow :=
      { key, leaseJson := lease.toDict.encode, payloadKind := payload.kind
        payloadJson := payload.toDict.encode, state := .pending, evidenceJson, revision := 1
        createdAt := now, updatedAt := now }
    return (row, ⟨journal.records.put row, .recorded row :: journal.changes⟩)

/-- The revision that a caller of `settle` expects: the one it names, or that of the record that it
passes as the identity. -/
def expectedRevision (identity : SettlementIdentity) (expected : Option Json) :
    Except SettlementError (Option ℕ) :=
  let named := match expected, identity with
    | some value, _ => some value
    | none, .mapping fields => Json.get? fields "revision"
    | none, .lease _ => none
  match named with
  | none | some .null => .ok none
  | some value => do
    let revision ← present (boundedInt 1 value)
      (.value "expected_revision must be a positive integer")
    return some revision

/-- `settle`, at a sample of the wall clock. -/
def settle (now : Timestamp) (identity : SettlementIdentity) (state : String) (evidence : Json)
    (expected : Option Json) : Except SettlementError (SettlementRow × SettlementJournal) := do
  let key ← settlementKey false identity
  let state ← present (SettlementState.ofText state) (.value "unsupported settlement state")
  let encoded ← evidenceText "evidence must be a strict JSON object" evidence
  let expected ← expectedRevision identity expected
  let row ← present (journal.records.find? key)
    (.conflict "settlement obligation does not exist")
  if row.state = state ∧ row.evidenceJson = encoded then return (row, journal)
  else
    check (row.state.terminal = false ∧ ∀ revision ∈ expected, row.revision = revision)
      (.conflict "settlement state/revision CAS differs")
    let changed := { row with
      state, evidenceJson := encoded, revision := row.revision + 1, updatedAt := now }
    return (changed, ⟨journal.records.put changed, .settled key :: journal.changes⟩)

end SettlementJournal

inductive SettlementCall where
  | record (now : Timestamp) (lease : ExecutionLease) (payload : SettlementPayload)
      (evidence : Option Json)
  | settle (now : Timestamp) (identity : SettlementIdentity) (state : String) (evidence : Json)
      (expected : Option Json)

namespace SettlementCall

/-- What a call answers and what it makes of the journal. -/
def attempt (journal : SettlementJournal) :
    SettlementCall → Except SettlementError (SettlementRow × SettlementJournal)
  | record now lease payload evidence => journal.record now lease payload evidence
  | settle now identity state evidence expected =>
    journal.settle now identity state evidence expected

/-- The journal after a call whose transaction is committed. A transaction in which an error is
raised is rolled back. -/
def apply (journal : SettlementJournal) (call : SettlementCall) : SettlementJournal :=
  match call.attempt journal with
  | .ok answer => answer.2
  | .error _ => journal

end SettlementCall

/-- The calls of any number of processes, each of them committed or lost. -/
inductive SettlementJournal.Step (journal : SettlementJournal) : SettlementJournal → Prop
  | committed (call : SettlementCall) : Step journal (call.apply journal)
  /-- The process stops, or its time is over, before the commit. -/
  | lost (call : SettlementCall) : Step journal journal

/-- A new journal, and every interleaving of calls. -/
def settlementJournal : TransitionSystem SettlementJournal where
  initial journal := journal.records = ∅ ∧ journal.changes = []
  step := SettlementJournal.Step

/-! ### What a call does -/

namespace SettlementRow

structure Keeps (row later : SettlementRow) : Prop where
  key : later.key = row.key
  leaseJson : later.leaseJson = row.leaseJson
  payloadKind : later.payloadKind = row.payloadKind
  payloadJson : later.payloadJson = row.payloadJson
  revision : row.revision ≤ later.revision
  terminal : row.state.terminal = true → later = row

theorem Keeps.refl (row : SettlementRow) : row.Keeps row :=
  ⟨rfl, rfl, rfl, rfl, le_rfl, fun _ => rfl⟩

theorem Keeps.trans {first second third : SettlementRow} (early : first.Keeps second)
    (late : second.Keeps third) : first.Keeps third := by
  refine ⟨late.key.trans early.key, late.leaseJson.trans early.leaseJson,
    late.payloadKind.trans early.payloadKind, late.payloadJson.trans early.payloadJson,
    early.revision.trans late.revision, fun terminal => ?_⟩
  have same := early.terminal terminal
  subst same
  exact late.terminal terminal

end SettlementRow

namespace SettlementJournal

variable {journal next : SettlementJournal}

/-- What a call does to the journal: nothing, or it inserts a row, or it changes one. -/
inductive Move (journal : SettlementJournal) : SettlementJournal → Prop
  | none : Move journal journal
  | insert (row : SettlementRow) (fresh : journal.records.find? row.key = none)
      (first : row.revision = 1) :
      Move journal ⟨journal.records.put row, .recorded row :: journal.changes⟩
  | change (row changed : SettlementRow) (stored : row ∈ journal.records)
      (keeps : row.Keeps changed) (counted : changed.revision = row.revision + 1) :
      Move journal ⟨journal.records.put changed, .settled row.key :: journal.changes⟩

variable {answer : SettlementRow}

/-- What `record` has checked and done. -/
theorem record_eq_ok {now : Timestamp} {lease : ExecutionLease} {payload : SettlementPayload}
    {evidence : Option Json}
    (passed : journal.record now lease payload evidence = .ok (answer, next)) :
    answer.key = ⟨lease.executionId, lease.attempt, lease.fence⟩ ∧
      answer.leaseJson = lease.toDict.encode ∧ answer.payloadKind = payload.kind ∧
        answer.payloadJson = payload.toDict.encode ∧
          ((answer ∈ journal.records ∧ next = journal) ∨
            (journal.records.find? answer.key = none ∧ answer.revision = 1 ∧
              next = ⟨journal.records.put answer, .recorded answer :: journal.changes⟩)) := by
  unfold record at passed
  obtain ⟨_, _, passed⟩ := bind_eq_ok.mp passed
  obtain ⟨evidenceJson, _, passed⟩ := bind_eq_ok.mp passed
  split at passed
  · rename_i row found
    simp only [passes_iff] at passed
    obtain ⟨⟨sameLease, sameKind, samePayload⟩, answered⟩ := passed
    cases answered
    exact ⟨key_of_find? found, sameLease, sameKind, samePayload, Or.inl ⟨mem_of_find? found, rfl⟩⟩
  · rename_i absent
    cases passed
    exact ⟨rfl, rfl, rfl, rfl, Or.inr ⟨absent, rfl, rfl⟩⟩

/-- What `settle` has checked and done. -/
theorem settle_eq_ok {now : Timestamp} {identity : SettlementIdentity} {state : String}
    {evidence : Json} {expected : Option Json}
    (passed : journal.settle now identity state evidence expected = .ok (answer, next)) :
    ∃ row named, row ∈ journal.records ∧ settlementKey false identity = .ok row.key ∧
      expectedRevision identity expected = .ok named ∧
        ((answer = row ∧ next = journal ∧ SettlementState.ofText state = some row.state ∧
            evidenceText "evidence must be a strict JSON object" evidence =
              .ok row.evidenceJson) ∨
          (row.Keeps answer ∧ answer.revision = row.revision + 1 ∧
            row.state.terminal = false ∧ (∀ revision ∈ named, row.revision = revision) ∧
              next = ⟨journal.records.put answer, .settled row.key :: journal.changes⟩)) := by
  unfold settle at passed
  obtain ⟨key, identified, passed⟩ := bind_eq_ok.mp passed
  obtain ⟨asked, supported, passed⟩ := bind_eq_ok.mp passed
  obtain ⟨encoded, written, passed⟩ := bind_eq_ok.mp passed
  obtain ⟨named, expects, passed⟩ := bind_eq_ok.mp passed
  obtain ⟨row, stored, passed⟩ := bind_eq_ok.mp passed
  have found := present_eq_ok.mp stored
  obtain rfl := key_of_find? found
  refine ⟨row, named, mem_of_find? found, identified, expects, ?_⟩
  split at passed
  · rename_i same
    cases passed
    refine Or.inl ⟨rfl, rfl, ?_, ?_⟩
    · rw [same.1]
      exact present_eq_ok.mp supported
    · rw [same.2]
      exact written
  · simp only [passes_iff] at passed
    obtain ⟨⟨open_, agrees⟩, answered⟩ := passed
    cases answered
    refine Or.inr ⟨⟨rfl, rfl, rfl, rfl, Nat.le_succ _, fun terminal => ?_⟩, rfl, open_, agrees, rfl⟩
    cases open_.symm.trans terminal

variable {call : SettlementCall}

theorem attempt_moves (passed : call.attempt journal = .ok (answer, next)) : Move journal next := by
  cases call with
  | record now lease payload evidence =>
    obtain ⟨_, _, _, _, ⟨_, rfl⟩ | ⟨fresh, first, rfl⟩⟩ := record_eq_ok passed
    · exact .none
    · exact .insert answer fresh first
  | settle now identity state evidence expected =>
    obtain ⟨row, _, stored, _, _, ⟨_, rfl, _⟩ | ⟨keeps, counted, _, _, rfl⟩⟩ := settle_eq_ok passed
    · exact .none
    · exact .change row answer stored keeps counted

theorem Step.moves (step : journal.Step next) : Move journal next := by
  cases step with
  | committed call =>
    unfold SettlementCall.apply
    split
    · rename_i answer passed
      exact attempt_moves passed
    · exact .none
  | lost call => exact .none

/-! ### What holds of every journal -/

/-- The changes that `settle` has made to a row. -/
def settlements (journal : SettlementJournal) (key : SettlementKey) : ℕ :=
  journal.changes.countP fun change =>
    match change with
    | .recorded _ => false
    | .settled other => decide (other = key)

/-- What a row owes to the changes that were accepted: the one that recorded it, and all that have
settled it since. -/
structure Accounts (journal : SettlementJournal) (row : SettlementRow) : Prop where
  recorded : ∃ first, .recorded first ∈ journal.changes ∧ first.key = row.key ∧
    first.leaseJson = row.leaseJson ∧ first.payloadKind = row.payloadKind ∧
      first.payloadJson = row.payloadJson
  revision : row.revision = 1 + journal.settlements row.key

structure Sound (journal : SettlementJournal) : Prop where
  accounts : ∀ row ∈ journal.records, journal.Accounts row
  /-- What has been recorded is there. -/
  kept : ∀ first, .recorded first ∈ journal.changes → ∃ row ∈ journal.records, row.key = first.key
  /-- An obligation is recorded once. -/
  once : ∀ first second, .recorded first ∈ journal.changes → .recorded second ∈ journal.changes →
    first.key = second.key → first = second
  settled : ∀ key, .settled key ∈ journal.changes → ∃ row ∈ journal.records, row.key = key

theorem settlements_absent (sound : journal.Sound) {key : SettlementKey}
    (absent : journal.records.find? key = none) : journal.settlements key = 0 := by
  refine countP_eq_zero.mpr fun change member counted => ?_
  cases change with
  | recorded row => cases counted
  | settled other =>
    obtain ⟨row, stored, named⟩ := sound.settled other member
    exact find?_eq_none_iff.mp absent row stored (named.trans (of_decide_eq_true counted))

theorem settlements_recorded (journal : SettlementJournal) (records : Table SettlementRow.key)
    (row : SettlementRow) (key : SettlementKey) :
    settlements ⟨records, .recorded row :: journal.changes⟩ key = journal.settlements key :=
  countP_cons_of_neg (by simp)

theorem settlements_settled (journal : SettlementJournal) (records : Table SettlementRow.key)
    (settled key : SettlementKey) :
    settlements ⟨records, .settled settled :: journal.changes⟩ key =
      if settled = key then journal.settlements key + 1 else journal.settlements key := by
  unfold settlements
  rw [countP_cons]
  by_cases same : settled = key
  · rw [if_pos same, if_pos (decide_eq_true same)]
  · rw [if_neg same, if_neg (by simpa using same), Nat.add_zero]

theorem Sound.move (sound : journal.Sound) (move : Move journal next) : next.Sound := by
  cases move with
  | none => exact sound
  | insert row fresh first =>
    have earlier : ∀ {other : SettlementRow}, .recorded other ∈ journal.changes →
        other.key ≠ row.key := by
      intro other listed same
      obtain ⟨stored, there, named⟩ := sound.kept other listed
      exact find?_eq_none_iff.mp fresh stored there (named.trans same)
    refine ⟨fun other member => ?_, fun other listed => ?_, fun left right => ?_,
      fun key listed => ?_⟩
    · rcases mem_put.mp member with rfl | ⟨old, _⟩
      · refine ⟨⟨_, mem_cons_self, rfl, rfl, rfl, rfl⟩, ?_⟩
        rw [settlements_recorded, settlements_absent sound fresh, first]
      · obtain ⟨⟨origin, listed, same⟩, counted⟩ := sound.accounts other old
        refine ⟨⟨origin, mem_cons_of_mem _ listed, same⟩, ?_⟩
        rw [settlements_recorded]
        exact counted
    · rcases mem_cons.mp listed with new | old
      · cases new
        exact ⟨row, mem_put.mpr (.inl rfl), rfl⟩
      · obtain ⟨stored, there, named⟩ := sound.kept other old
        exact ⟨stored, mem_put_of_fresh _ fresh there, named⟩
    · intro leftListed rightListed same
      rcases mem_cons.mp leftListed with leftNew | leftOld
      · cases leftNew
        rcases mem_cons.mp rightListed with rightNew | rightOld
        · cases rightNew
          rfl
        · exact absurd same.symm (earlier rightOld)
      · rcases mem_cons.mp rightListed with rightNew | rightOld
        · cases rightNew
          exact absurd same (earlier leftOld)
        · exact sound.once left right leftOld rightOld same
    · rcases mem_cons.mp listed with new | old
      · cases new
      · obtain ⟨stored, there, named⟩ := sound.settled key old
        exact ⟨stored, mem_put_of_fresh _ fresh there, named⟩
  | change row changed stored keeps counted =>
    have kept : ∀ {other : SettlementRow}, other ∈ journal.records →
        ∃ later ∈ journal.records.put changed, later.key = other.key := by
      intro other there
      by_cases here : other.key = changed.key
      · exact ⟨changed, mem_put.mpr (.inl rfl), here.symm⟩
      · exact ⟨other, mem_put.mpr (.inr ⟨there, here⟩), rfl⟩
    refine ⟨fun other member => ?_, fun other listed => ?_, fun left right => ?_,
      fun key listed => ?_⟩
    · rcases mem_put.mp member with rfl | ⟨old, differs⟩
      · obtain ⟨⟨origin, listed, named, lease, kind, payload⟩, before⟩ := sound.accounts row stored
        refine ⟨⟨origin, mem_cons_of_mem _ listed, named.trans keeps.key.symm,
          lease.trans keeps.leaseJson.symm, kind.trans keeps.payloadKind.symm,
          payload.trans keeps.payloadJson.symm⟩, ?_⟩
        rw [settlements_settled, if_pos keeps.key.symm, counted, keeps.key, before]
        exact Nat.add_assoc 1 _ 1
      · obtain ⟨⟨origin, listed, same⟩, before⟩ := sound.accounts other old
        refine ⟨⟨origin, mem_cons_of_mem _ listed, same⟩, ?_⟩
        rw [settlements_settled, if_neg fun same => differs (same.symm.trans keeps.key.symm)]
        exact before
    · rcases mem_cons.mp listed with new | old
      · cases new
      · obtain ⟨there, present, named⟩ := sound.kept other old
        obtain ⟨later, written, same⟩ := kept present
        exact ⟨later, written, same.trans named⟩
    · intro leftListed rightListed same
      rcases mem_cons.mp leftListed with leftNew | leftOld
      · cases leftNew
      · rcases mem_cons.mp rightListed with rightNew | rightOld
        · cases rightNew
        · exact sound.once left right leftOld rightOld same
    · rcases mem_cons.mp listed with new | old
      · cases new
        exact kept stored
      · obtain ⟨there, present, named⟩ := sound.settled key old
        obtain ⟨later, written, same⟩ := kept present
        exact ⟨later, written, same.trans named⟩

theorem sound (reachable : settlementJournal.Reachable journal) : journal.Sound := by
  refine reachable.invariant Sound ?_ fun _ _ _ sound step => Sound.move sound (Step.moves step)
  rintro journal ⟨records, changes⟩
  refine ⟨?_, ?_, ?_, ?_⟩
  · rw [records]
    rintro row ⟨⟩
  · rw [changes]
    rintro first ⟨⟩
  · rw [changes]
    rintro first second ⟨⟩
  · rw [changes]
    rintro key ⟨⟩

/-! ### What becomes of an obligation -/

def Retains (journal next : SettlementJournal) : Prop :=
  ∀ row ∈ journal.records, ∃ later ∈ next.records, row.Keeps later

theorem Move.retains (move : Move journal next) : Retains journal next := by
  intro row member
  cases move with
  | none => exact ⟨row, member, .refl row⟩
  | insert fresh absent first => exact ⟨row, mem_put_of_fresh _ absent member, .refl row⟩
  | change stored changed there keeps counted =>
    by_cases here : row.key = changed.key
    · obtain rfl : row = stored := eq_of_key_eq member there (here.trans keeps.key)
      exact ⟨changed, mem_put.mpr (.inl rfl), keeps⟩
    · exact ⟨row, mem_put.mpr (.inr ⟨member, here⟩), .refl row⟩

theorem retains (reachable : settlementJournal.Reachable journal)
    (run : settlementJournal.Run journal next) : Retains journal next := by
  refine reachable.respects Retains (fun _ row member => ⟨row, member, .refl row⟩) ?_
    (fun _ _ _ step => Move.retains (Step.moves step)) run
  intro first second third early late row member
  obtain ⟨middle, between, keeps⟩ := early row member
  obtain ⟨last, ultimately, further⟩ := late middle between
  exact ⟨last, ultimately, keeps.trans further⟩

/-- The call names an obligation whose lease or payload was recorded with another text. -/
def Conflicts (row : SettlementRow) (lease : ExecutionLease) (payload : SettlementPayload) : Prop :=
  row.leaseJson ≠ lease.toDict.encode ∨ row.payloadKind ≠ payload.kind ∨
    row.payloadJson ≠ payload.toDict.encode

theorem apply_of_error {failure : SettlementError}
    (refused : call.attempt journal = .error failure) : call.apply journal = journal := by
  unfold SettlementCall.apply
  rw [refused]

theorem apply_of_ok {answer : SettlementRow}
    (passed : call.attempt journal = .ok (answer, next)) : call.apply journal = next := by
  unfold SettlementCall.apply
  rw [passed]

theorem record_conflict {row : SettlementRow} (stored : row ∈ journal.records)
    {now : Timestamp} {lease : ExecutionLease} {payload : SettlementPayload}
    {evidence : Option Json} (named : row.key = ⟨lease.executionId, lease.attempt, lease.fence⟩)
    (conflicts : Conflicts row lease payload) :
    ∃ failure, journal.record now lease payload evidence = .error failure := by
  cases outcome : journal.record now lease payload evidence with
  | error failure => exact ⟨failure, rfl⟩
  | ok answer =>
    obtain ⟨answer, next⟩ := answer
    obtain ⟨key, sameLease, sameKind, samePayload, there | ⟨absent, _⟩⟩ := record_eq_ok outcome
    · obtain rfl : answer = row := eq_of_key_eq there.1 stored (key.trans named.symm)
      rcases conflicts with lease | kind | payload
      · exact absurd sameLease lease
      · exact absurd sameKind kind
      · exact absurd samePayload payload
    · exact absurd (named.trans key.symm) (find?_eq_none_iff.mp absent row stored)

/-- In every order of calls an obligation keeps what the one call recorded and is never lost; once
recorded or superseded it stays as it is; and a stale or conflicting call changes nothing. -/
theorem obligations_kept (reachable : settlementJournal.Reachable journal) :
    (∀ row ∈ journal.records, journal.Accounts row) ∧
    (∀ first second, .recorded first ∈ journal.changes → .recorded second ∈ journal.changes →
      first.key = second.key → first = second) ∧
    (∀ last, settlementJournal.Run journal last → ∀ row ∈ journal.records,
      ∃ later ∈ last.records, row.Keeps later) ∧
    (∀ row ∈ journal.records, row.state.terminal = true → ∀ now identity state evidence expected,
      settlementKey false identity = .ok row.key → ∀ answer after,
        journal.settle now identity state evidence expected = .ok (answer, after) →
          answer = row ∧ after = journal ∧ SettlementState.ofText state = some row.state ∧
            evidenceText "evidence must be a strict JSON object" evidence =
              .ok row.evidenceJson) ∧
    (∀ row ∈ journal.records, ∀ now identity state evidence expected revision,
      settlementKey false identity = .ok row.key →
        expectedRevision identity expected = .ok (some revision) → row.revision ≠ revision →
          (SettlementCall.settle now identity state evidence expected).apply journal = journal) ∧
    (∀ row ∈ journal.records, ∀ now (lease : ExecutionLease) payload evidence,
      row.key = ⟨lease.executionId, lease.attempt, lease.fence⟩ → Conflicts row lease payload →
        (∃ failure, journal.record now lease payload evidence = .error failure) ∧
          (SettlementCall.record now lease payload evidence).apply journal = journal) := by
  refine ⟨(sound reachable).accounts, (sound reachable).once,
    fun last run => retains reachable run, ?_, ?_, ?_⟩
  · intro row stored terminal now identity state evidence expected named answer after passed
    obtain ⟨found, _, there, identified, _, same | ⟨_, _, open_, _⟩⟩ := settle_eq_ok passed
    · obtain rfl : found = row :=
        eq_of_key_eq there stored (Except.ok.inj (identified.symm.trans named))
      exact same
    · obtain rfl : found = row :=
        eq_of_key_eq there stored (Except.ok.inj (identified.symm.trans named))
      cases open_.symm.trans terminal
  · intro row stored now identity state evidence expected revision named expects stale
    cases outcome : journal.settle now identity state evidence expected with
    | error failure => exact @apply_of_error journal (.settle now identity state evidence expected) failure outcome
    | ok answer =>
      refine (@apply_of_ok journal answer.2 (.settle now identity state evidence expected) answer.1
        outcome).trans ?_
      obtain ⟨found, agreed, there, identified, asked, same | ⟨_, _, _, agrees, _⟩⟩ :=
        settle_eq_ok outcome
      · exact same.2.1
      · obtain rfl : found = row :=
          eq_of_key_eq there stored (Except.ok.inj (identified.symm.trans named))
        cases Except.ok.inj (asked.symm.trans expects)
        exact absurd (agrees revision rfl) stale
  · intro row stored now lease payload evidence named conflicts
    obtain ⟨failure, refused⟩ := @record_conflict journal row stored now lease payload evidence named
      conflicts
    exact ⟨⟨failure, refused⟩, apply_of_error refused⟩

theorem sampleJob_filled : blank "job" = false := by decide

def sampleSettlementLease : ExecutionLease where
  executionId := ⟨"job", sampleJob_filled⟩
  leaseId := ⟨"job", sampleJob_filled⟩
  owner := ⟨"job", sampleJob_filled⟩
  fence := 1
  attempt := 1
  expiresAt := (10 : ℕ)
  revision := 2
  fencePositive := first_positive
  attemptPositive := first_positive
  revisionPositive := second_positive

/-- The journal after calls that were all committed. -/
def after (journal : SettlementJournal) (calls : List SettlementCall) : SettlementJournal :=
  calls.foldl (fun journal call => call.apply journal) journal

theorem reachable_after (reachable : settlementJournal.Reachable journal)
    (calls : List SettlementCall) : settlementJournal.Reachable (journal.after calls) := by
  induction calls generalizing journal with
  | nil => exact reachable
  | cons call rest hypothesis =>
    exact hypothesis (reachable.next (.committed call))

def sampleSettled : SettlementJournal :=
  after ⟨∅, []⟩
    [.record 0 sampleSettlementLease (.deferred ⟨"job", sampleJob_filled⟩ .null) none,
      .settle 1 (.lease sampleSettlementLease) "recorded" (.object []) none]

theorem obligations_kept_sample : settlementJournal.Reachable sampleSettled ∧
    ∃ row ∈ sampleSettled.records, row.state = .recorded ∧ row.revision = 2 ∧
      sampleSettled.settlements row.key = 1 := by
  have reached : settlementJournal.Reachable sampleSettled := reachable_after (.start ⟨rfl, rfl⟩) _
  have outcome : sampleSettled.records.rows.any
      (fun row => decide (row.state = .recorded ∧ row.revision = 2)) = true := by
    decide +kernel
  obtain ⟨row, member, facts⟩ := any_eq_true.mp outcome
  have known := of_decide_eq_true facts
  have counted := ((obligations_kept reached).1 row member).revision
  rw [known.2] at counted
  exact ⟨reached, row, member, known.1, known.2, by omega⟩

end SettlementJournal

def SettlementChange.inserted : SettlementChange → Option SettlementKey
  | .recorded row => some row.key
  | .settled _ => none

namespace SettlementJournal

/-- The obligations in the order of their rowids, which count from one. -/
def keys (journal : SettlementJournal) : List SettlementKey :=
  journal.changes.reverse.filterMap SettlementChange.inserted

/-- `state IN ('pending','error')`, for the row after so many others. -/
def pending (journal : SettlementJournal) (index : ℕ) : Option SettlementRow :=
  (journal.keys[index]?.bind journal.records.find?).filter fun row =>
    decide (row.state = .pending ∨ row.state = .error)

/-- The first eligible row with a rowid past the cursor, or else the first eligible row. -/
def nextPending (journal : SettlementJournal) (lastRowid : ℕ) : Option ℕ :=
  let eligible := (List.range journal.keys.length).filter fun index => (journal.pending index).isSome
  (eligible.find? fun index => lastRowid < index + 1).or eligible.head?

end SettlementJournal

/-- The journal and `settlement_recovery_cursor`. -/
structure SettlementRecovery where
  journal : SettlementJournal
  lastRowid : ℕ

/-- What a call of `next_pending_round_robin` ends with, once it has moved the cursor. -/
inductive RecoveryAnswer where
  | oversized (identity : Option SettlementKey) (requiredBytes : ℕ)
  | record (row : SettlementRow)
  /-- The row is not eligible any more, or it has become too long. -/
  | gone
  /-- `SettlementBusyError`. -/
  | busy

inductive RecoveryAction where
  | write (call : SettlementCall)
  /-- A call, the writes between its transactions, and whether its time ends after the first. -/
  | recover (maxRecordBytes : ℕ) (between : List SettlementCall) (late : Bool)

def maxRecoveryIdBytes : ℕ := 4096

namespace SettlementRecovery

-- `total_bytes`: the bytes of the texts of a row and of its execution id
variable (totalBytes : SettlementRow → ℕ)

/-- What a call answers for the row it has come to. -/
def answer (journal later : SettlementJournal) (maxRecordBytes : ℕ) (late : Bool) (index : ℕ) :
    RecoveryAnswer :=
  match journal.pending index with
  | none => .gone
  | some row =>
    if maxRecordBytes < totalBytes row then
      .oversized (if row.key.executionId.text.utf8ByteSize ≤ maxRecoveryIdBytes then some row.key
        else none) (totalBytes row)
    else if late then .busy
    else
      match later.pending index with
      | none => .gone
      | some row => if totalBytes row ≤ maxRecordBytes then .record row else .gone

/-- The position and the answer of a call that finds something, and what an action leaves. -/
def act (store : SettlementRecovery) :
    RecoveryAction → Option (ℕ × RecoveryAnswer) × SettlementRecovery
  | .write call => (none, { store with journal := call.apply store.journal })
  | .recover maxRecordBytes between late =>
    let later := store.journal.after between
    match store.journal.nextPending store.lastRowid with
    | none => (none, { store with journal := later })
    | some index =>
      (some (index, answer totalBytes store.journal later maxRecordBytes late index),
        ⟨later, index + 1⟩)

def after (store : SettlementRecovery) (actions : List RecoveryAction) : SettlementRecovery :=
  actions.foldl (fun store action => (store.act totalBytes action).2) store

/-- A row is eligible whenever one of the actions reads the journal, and afterwards. -/
def Throughout (index : ℕ) : SettlementRecovery → List RecoveryAction → Prop
  | store, [] => (store.journal.pending index).isSome
  | store, action :: rest => (store.journal.pending index).isSome ∧
      Throughout index (store.act totalBytes action).2 rest

/-! ### The scan -/

variable {totalBytes} {journal later : SettlementJournal} {store : SettlementRecovery}
  {index other lastRowid : ℕ}

theorem pending_bound (eligible : (journal.pending index).isSome) : index < journal.keys.length := by
  by_contra past
  unfold SettlementJournal.pending at eligible
  rw [List.getElem?_eq_none (not_lt.mp past)] at eligible
  cases eligible

theorem nextPending_first (found : journal.nextPending lastRowid = some index)
    (eligible : (journal.pending other).isSome) :
    (lastRowid ≤ index ∧ (lastRowid ≤ other → index ≤ other)) ∨
      (other < lastRowid ∧ index ≤ other) := by
  unfold SettlementJournal.nextPending at found
  have member : other ∈ (List.range journal.keys.length).filter fun index =>
      (journal.pending index).isSome :=
    mem_filter.mpr ⟨mem_range.mpr (pending_bound eligible), eligible⟩
  have sorted : ((List.range journal.keys.length).filter fun index =>
      (journal.pending index).isSome).Pairwise (· < ·) := pairwise_lt_range.filter _
  generalize (List.range journal.keys.length).filter _ = rows at found member sorted
  dsimp only at found
  cases past : rows.find? fun index => lastRowid < index + 1 with
  | some first =>
    rw [past] at found
    cases found
    obtain ⟨reached, earlier, rest, split, before⟩ := List.find?_eq_some_iff_append.mp past
    refine Or.inl ⟨Nat.lt_succ_iff.mp (of_decide_eq_true reached), fun comes => ?_⟩
    rw [split] at member sorted
    rcases mem_append.mp member with early | late
    · have passed := before other early
      simp only [Bool.not_eq_true', decide_eq_false_iff_not] at passed
      omega
    · rcases mem_cons.mp late with rfl | late
      · exact le_rfl
      · exact (rel_of_pairwise_cons (pairwise_append.mp sorted).2.1 late).le
  | none =>
    rw [past] at found
    have behind := List.find?_eq_none.mp past other member
    refine Or.inr ⟨?_, ?_⟩
    · simp only [decide_eq_true_eq] at behind
      omega
    · cases rows with
      | nil => cases member
      | cons first rest =>
        cases found
        rcases mem_cons.mp member with rfl | late
        · exact le_rfl
        · exact (rel_of_pairwise_cons sorted late).le

/-- The scan comes past one row before it comes back to the other. -/
def Ahead (index other lastRowid : ℕ) : Prop :=
  (index < other → index < lastRowid ∧ lastRowid ≤ other) ∧
    (other < index → index < lastRowid ∨ lastRowid ≤ other)

theorem Ahead.next (ahead : Ahead index other lastRowid) (distinct : other ≠ index) {found : ℕ}
    (next : journal.nextPending lastRowid = some found)
    (eligible : (journal.pending other).isSome) :
    found ≠ index ∧ (found ≠ other → Ahead index other (found + 1)) := by
  have comes := nextPending_first next eligible
  unfold Ahead at ahead ⊢
  omega

variable {action : RecoveryAction}

theorem act_answer {found : ℕ} {report : RecoveryAnswer}
    (comes : (store.act totalBytes action).1 = some (found, report)) :
    ∃ maxRecordBytes between late, action = .recover maxRecordBytes between late ∧
      store.journal.nextPending store.lastRowid = some found ∧
      (store.act totalBytes action).2 = ⟨store.journal.after between, found + 1⟩ ∧
      report = answer totalBytes store.journal (store.journal.after between) maxRecordBytes late
        found := by
  cases action with
  | write call => cases comes
  | recover maxRecordBytes between late =>
    unfold act at comes ⊢
    dsimp only at comes ⊢
    split at comes
    · cases comes
    · rename_i next
      cases comes
      rw [next]
      exact ⟨_, _, _, rfl, rfl, rfl, rfl⟩

theorem act_still (silent : (store.act totalBytes action).1 = none) :
    (store.act totalBytes action).2.lastRowid = store.lastRowid := by
  cases action with
  | write call => rfl
  | recover maxRecordBytes between late =>
    unfold act at silent ⊢
    dsimp only at silent ⊢
    split at silent
    · rfl
    · cases silent

/-- A call reports a row, unless its time ends or the row is too long at its second reading. -/
def Tells (totalBytes : SettlementRow → ℕ) (journal later : SettlementJournal) (maxRecordBytes : ℕ) (late : Bool) (index : ℕ)
    (report : RecoveryAnswer) : Prop :=
  (∃ row, journal.pending index = some row ∧ maxRecordBytes < totalBytes row ∧
    ∃ identity, report = .oversized identity (totalBytes row)) ∨
  (late = true ∧ report = .busy) ∨
  ∃ row, later.pending index = some row ∧
    (report = .record row ∨ (maxRecordBytes < totalBytes row ∧ report = .gone))

theorem answer_tells {maxRecordBytes : ℕ} {late : Bool} (eligible : (journal.pending index).isSome)
    (again : (later.pending index).isSome) :
    Tells totalBytes journal later maxRecordBytes late index
      (answer totalBytes journal later maxRecordBytes late index) := by
  obtain ⟨row, found⟩ := Option.isSome_iff_exists.mp eligible
  obtain ⟨current, stored⟩ := Option.isSome_iff_exists.mp again
  unfold answer
  rw [found, stored]
  dsimp only
  split
  · rename_i long
    exact .inl ⟨row, found, long, _, rfl⟩
  split
  · rename_i ended
    exact .inr (.inl ⟨ended, rfl⟩)
  split
  · exact .inr (.inr ⟨current, stored, Or.inl rfl⟩)
  · rename_i long
    exact .inr (.inr ⟨current, stored, Or.inr ⟨not_le.mp long, rfl⟩⟩)

/-- One of the calls comes to a row, and reports it as far as it can. -/
def Comes (totalBytes : SettlementRow → ℕ) (store : SettlementRecovery)
    (actions : List RecoveryAction) (index : ℕ) : Prop :=
  ∃ earlier maxRecordBytes between late rest report,
    actions = earlier ++ .recover maxRecordBytes between late :: rest ∧
    ((store.after totalBytes earlier).act totalBytes (.recover maxRecordBytes between late)).1 =
      some (index, report) ∧
    Tells totalBytes (store.after totalBytes earlier).journal
      ((store.after totalBytes earlier).journal.after between) maxRecordBytes late index report

variable {actions : List RecoveryAction}

theorem Throughout.first (stays : Throughout totalBytes index store actions) :
    (store.journal.pending index).isSome := by
  cases actions with
  | nil => exact stays
  | cons action rest => exact stays.1

theorem Throughout.last (stays : Throughout totalBytes index store actions) :
    ((store.after totalBytes actions).journal.pending index).isSome := by
  induction actions generalizing store with
  | nil => exact stays
  | cons action rest hypothesis => exact hypothesis stays.2

theorem comes_or_ahead (distinct : other ≠ index) (ahead : Ahead index other store.lastRowid)
    (stays : Throughout totalBytes other store actions) :
    Comes totalBytes store actions other ∨
      Ahead index other (store.after totalBytes actions).lastRowid := by
  induction actions generalizing store with
  | nil => exact .inr ahead
  | cons action rest hypothesis =>
    obtain ⟨eligible, stays⟩ := stays
    have further : Ahead index other (store.act totalBytes action).2.lastRowid →
        Comes totalBytes store (action :: rest) other ∨
          Ahead index other (store.after totalBytes (action :: rest)).lastRowid := by
      refine fun ahead => (hypothesis ahead stays).imp_left ?_
      rintro ⟨earlier, maxRecordBytes, between, late, rest, report, rfl, facts⟩
      exact ⟨action :: earlier, maxRecordBytes, between, late, rest, report, rfl, facts⟩
    cases comes : (store.act totalBytes action).1 with
    | none => exact further (by rw [act_still comes]; exact ahead)
    | some found =>
      obtain ⟨maxRecordBytes, between, late, rfl, next, after, report⟩ := act_answer comes
      by_cases same : found.1 = other
      · have again := stays.first
        rw [after] at again
        refine Or.inl ⟨[], maxRecordBytes, between, late, rest, found.2, rfl, same ▸ comes, ?_⟩
        rw [report, same]
        exact answer_tells eligible again
      · refine further ?_
        rw [after]
        exact (ahead.next distinct next eligible).2 same

def sampleRecovery : SettlementRecovery where
  journal := SettlementJournal.after ⟨∅, []⟩
    [.record 0 SettlementJournal.sampleSettlementLease
        (.deferred ⟨"job", SettlementJournal.sampleJob_filled⟩ .null) none,
      .record 0
        { SettlementJournal.sampleSettlementLease with attempt := 2, attemptPositive := second_positive }
        (.deferred ⟨"job", SettlementJournal.sampleJob_filled⟩ .null) none]
  lastRowid := 0

end SettlementRecovery

inductive AdmissionError where
  | type (message : String)
  | value (message : String)
  /-- `PendingSettlementConflictError`. -/
  | conflict (message : String)

structure PendingSettlement where
  key : SettlementKey
  lease : ExecutionLease
  payloadJson : Json.Text
  evidenceJson : Json.Text
  deriving DecidableEq

def PendingSettlement.snapshot (value : Json) (name : String) : Except AdmissionError Json.Text :=
  match value with
  | .object _ => .ok value.encode
  | _ => .error (.type (name ++ " must be a strict JSON object"))

structure SettlementAdmission where
  entry : Option PendingSettlement
  released : Bool

structure PendingSettlements where
  capacity : ℕ
  inUse : ℤ
  /-- The tokens that were granted, in this order. -/
  tokens : List SettlementAdmission
  /-- What is retained, with its token, in the order of insertion. -/
  entries : List (SettlementKey × ℕ)

namespace PendingSettlements

/-- `PendingSettlements(capacity)`. -/
def create (capacity : { capacity : ℕ // 1 ≤ capacity }) : PendingSettlements :=
  { capacity := capacity.val, inUse := 0, tokens := [], entries := [] }

variable (pool : PendingSettlements)

def acquire : Option ℕ × PendingSettlements :=
  if (pool.capacity : ℤ) ≤ pool.inUse then (none, pool)
  else
    (some pool.tokens.length,
      { pool with inUse := pool.inUse + 1, tokens := pool.tokens ++ [⟨none, false⟩] })

def owned (token : ℕ) : Except AdmissionError SettlementAdmission :=
  present pool.tokens[token]? (.value "settlement admission belongs to another owner")

def retain (token : ℕ) (lease : ExecutionLease) (payload evidence : Json) :
    Except AdmissionError (SettlementKey × PendingSettlements) := do
  let held ← pool.owned token
  let key : SettlementKey := ⟨lease.executionId, lease.attempt, lease.fence⟩
  let payloadJson ← PendingSettlement.snapshot payload "payload"
  let evidenceJson ← PendingSettlement.snapshot evidence "evidence"
  let entry : PendingSettlement := ⟨key, lease, payloadJson, evidenceJson⟩
  match held.entry with
  | some stored =>
    check (stored = entry) (.conflict "retained settlement facts differ")
    return (key, pool)
  | none =>
    check (held.released = false) (.value "finished settlement admission cannot retain an outcome")
    check (key ∉ pool.entries.map Prod.fst)
      (.conflict "settlement identity has another admission owner")
    return (key, { pool with
      tokens := pool.tokens.set token { held with entry := some entry }
      entries := pool.entries ++ [(key, token)] })

/-- `entries(limit)`: what is retained, the oldest first. -/
def retained (limit : ℤ) : Except AdmissionError (List PendingSettlement) := do
  check (1 ≤ limit) (.value "limit must be a positive integer")
  return (pool.entries.take limit.toNat).filterMap fun entry =>
    pool.tokens[entry.2]?.bind SettlementAdmission.entry

/-- `token._released = True` and `self._in_use -= 1`. -/
def release (token : ℕ) (held : SettlementAdmission) : PendingSettlements :=
  { pool with
    tokens := pool.tokens.set token { held with released := true }
    inUse := pool.inUse - 1 }

def persisted (key : SettlementKey) (expected : Option PendingSettlement) :
    Bool × PendingSettlements :=
  match pool.entries.find? fun entry => entry.1 = key with
  | none => (false, pool)
  | some (_, token) =>
    match pool.tokens[token]? with
    | none => (false, pool)
    | some held =>
      if expected ≠ none ∧ held.entry ≠ expected then (false, pool)
      else
        (true, { pool.release token held with
          entries := pool.entries.filter fun entry => entry.1 ≠ key })

def finish (token : ℕ) : Except AdmissionError PendingSettlements := do
  let held ← pool.owned token
  if held.released = true ∨ held.entry ≠ none then return pool
  else return pool.release token held

/-! ### Runs -/

inductive Call where
  | acquire
  | retain (token : ℕ) (lease : ExecutionLease) (payload evidence : Json)
  | entries (limit : ℤ)
  | persisted (key : SettlementKey) (expected : Option PendingSettlement)
  | finish (token : ℕ)

/-- The cache after a call. A call that fails changes nothing. -/
def next : Call → PendingSettlements
  | .acquire => pool.acquire.2
  | .retain token lease payload evidence =>
    match pool.retain token lease payload evidence with
    | .ok (_, after) => after
    | .error _ => pool
  | .entries _ => pool
  | .persisted key expected => (pool.persisted key expected).2
  | .finish token =>
    match pool.finish token with
    | .ok after => after
    | .error _ => pool

def after (calls : List Call) : PendingSettlements := calls.foldl next pool

/-! ### What a call changes -/

variable {pool}

inductive Changes (pool : PendingSettlements) : Call → PendingSettlements → Prop where
  | nothing {call} : Changes pool call pool
  | granted (room : pool.inUse < pool.capacity) :
      Changes pool .acquire
        { pool with inUse := pool.inUse + 1, tokens := pool.tokens ++ [⟨none, false⟩] }
  | retained {token lease payload evidence held} {entry : PendingSettlement}
      (found : pool.tokens[token]? = some held) (vacant : held.entry = none)
      (unreleased : held.released = false) :
      Changes pool (.retain token lease payload evidence)
        { pool with
          tokens := pool.tokens.set token { held with entry := some entry }
          entries := pool.entries ++ [(entry.key, token)] }
  | persisted {key expected token held} (kept : (key, token) ∈ pool.entries)
      (found : pool.tokens[token]? = some held) (done : (pool.persisted key expected).1 = true) :
      Changes pool (.persisted key expected)
        { pool.release token held with
          entries := pool.entries.filter fun entry => entry.1 ≠ key }
  | finished {token held} (found : pool.tokens[token]? = some held) (vacant : held.entry = none)
      (unreleased : held.released = false) : Changes pool (.finish token) (pool.release token held)

variable {payload evidence : Json}

variable {lease : ExecutionLease} {key : SettlementKey} {index : ℕ}

theorem retain_changes {token : ℕ} {after : PendingSettlements}
    (accepted : pool.retain token lease payload evidence = .ok (key, after)) :
    pool.Changes (.retain token lease payload evidence) after := by
  unfold retain owned at accepted
  simp only [passes_iff] at accepted
  obtain ⟨held, found, payloadJson, -, evidenceJson, -, accepted⟩ := accepted
  split at accepted
  · simp only [passes_iff] at accepted
    obtain ⟨-, accepted⟩ := accepted
    cases accepted
    exact .nothing
  · rename_i vacant
    simp only [passes_iff] at accepted
    obtain ⟨unreleased, -, accepted⟩ := accepted
    cases accepted
    exact @Changes.retained _ _ _ _ _ _ ⟨_, lease, payloadJson, evidenceJson⟩ found vacant
      unreleased

theorem persisted_changes (key : SettlementKey) (expected : Option PendingSettlement) :
    pool.Changes (.persisted key expected) (pool.persisted key expected).2 := by
  cases listed : pool.entries.find? fun entry => entry.1 = key with
  | none =>
    simp only [persisted, listed]
    exact .nothing
  | some entry =>
    obtain ⟨name, token⟩ := entry
    have same : name = key := by simpa using List.find?_some listed
    subst same
    have kept := mem_of_find?_eq_some listed
    cases found : pool.tokens[token]? with
    | none =>
      simp only [persisted, listed, found]
      exact .nothing
    | some held =>
      by_cases differs : expected ≠ none ∧ held.entry ≠ expected
      · simp only [persisted, listed, found, if_pos differs]
        exact .nothing
      · have done : (pool.persisted name expected).1 = true := by
          simp only [persisted, listed, found, if_neg differs]
        simp only [persisted, listed, found, if_neg differs]
        exact .persisted kept found done

theorem finish_changes {token : ℕ} {after : PendingSettlements}
    (accepted : pool.finish token = .ok after) : pool.Changes (.finish token) after := by
  unfold finish owned at accepted
  simp only [passes_iff] at accepted
  obtain ⟨held, found, accepted⟩ := accepted
  split at accepted
  · cases accepted
    exact .nothing
  · rename_i idle
    cases accepted
    rw [not_or, Bool.not_eq_true, not_not] at idle
    exact .finished found idle.2 idle.1

theorem next_changes (call : Call) : pool.Changes call (pool.next call) := by
  cases call with
  | acquire =>
    show pool.Changes .acquire pool.acquire.2
    unfold acquire
    split
    · exact .nothing
    · rename_i room
      exact .granted (not_le.mp room)
  | retain token lease payload evidence =>
    unfold next
    dsimp only
    split
    · rename_i accepted
      exact retain_changes accepted
    · exact .nothing
  | entries limit => exact .nothing
  | persisted key expected => exact persisted_changes key expected
  | finish token =>
    unfold next
    dsimp only
    split
    · rename_i accepted
      exact finish_changes accepted
    · exact .nothing

/-! ### Tokens and entries agree -/

/-- The number of tokens that were granted and not yet released. -/
def outstanding (tokens : List SettlementAdmission) : ℕ :=
  tokens.countP fun token => !token.released

/-- A token that is not released holds an outcome under the key. -/
def Holds (tokens : List SettlementAdmission) (key : SettlementKey) (index : ℕ) : Prop :=
  ∃ token entry, tokens[index]? = some token ∧ token.released = false ∧
    token.entry = some entry ∧ entry.key = key

structure Lawful (pool : PendingSettlements) : Prop where
  counted : pool.inUse = outstanding pool.tokens
  bounded : pool.inUse ≤ pool.capacity
  held : ∀ {key index}, (key, index) ∈ pool.entries → Holds pool.tokens key index

variable {tokens : List SettlementAdmission} {token : SettlementAdmission}

theorem outstanding_set (next : SettlementAdmission)
    (found : tokens[index]? = some token) (unreleased : token.released = false) :
    (outstanding (tokens.set index next) : ℤ) =
      outstanding tokens - if next.released then 1 else 0 := by
  obtain ⟨bound, rfl⟩ := List.getElem?_eq_some_iff.mp found
  have positive : 0 < outstanding tokens :=
    countP_pos_iff.mpr ⟨_, getElem_mem bound, by simp [unreleased]⟩
  unfold outstanding at positive ⊢
  rw [countP_set bound, unreleased]
  cases next.released <;> simp <;> omega

theorem release_counted {token : ℕ} {held : SettlementAdmission}
    (counted : pool.inUse = outstanding pool.tokens) (found : pool.tokens[token]? = some held)
    (unreleased : held.released = false) :
    (pool.release token held).inUse = outstanding (pool.release token held).tokens :=
  (congrArg (· - 1) counted).trans
    (outstanding_set { held with released := true } found unreleased).symm

theorem Holds.set {other : ℕ}
    {next : SettlementAdmission} (holds : Holds tokens key index) (distinct : index ≠ other) :
    Holds (tokens.set other next) key index := by
  obtain ⟨token, entry, found, facts⟩ := holds
  exact ⟨token, entry, by rw [List.getElem?_set_ne distinct.symm, found], facts⟩

theorem Holds.ne_of_vacant {other : ℕ} (holds : Holds tokens key index)
    (found : tokens[other]? = some token) (vacant : token.entry = none) : index ≠ other := by
  rintro rfl
  obtain ⟨stored, entry, known, -, filled, -⟩ := holds
  cases found.symm.trans known
  exact nomatch vacant.symm.trans filled

theorem Lawful.changed {call : Call} {after : PendingSettlements} (lawful : pool.Lawful)
    (changes : pool.Changes call after) : after.Lawful := by
  have less : pool.inUse - 1 ≤ pool.capacity := (Int.sub_le_self _ (by decide)).trans lawful.bounded
  cases changes with
  | nothing => exact lawful
  | granted room =>
    refine ⟨?_, Int.add_one_le_iff.mpr room, fun {key index} kept => ?_⟩
    · simp [outstanding, lawful.counted]
    · obtain ⟨token, entry, found, facts⟩ := lawful.held kept
      exact ⟨token, entry, by
        rw [List.getElem?_append_left (List.getElem?_eq_some_iff.mp found).1, found], facts⟩
  | @retained token _ _ _ held entry found vacant unreleased =>
    refine ⟨?_, lawful.bounded, fun {key index} kept => ?_⟩
    · have counted := outstanding_set { held with entry := some entry } found unreleased
      simpa [unreleased, lawful.counted] using counted.symm
    · rcases mem_append.mp kept with old | new
      · exact (lawful.held old).set ((lawful.held old).ne_of_vacant found vacant)
      · cases mem_singleton.mp new
        exact ⟨_, entry, List.getElem?_set_self (List.getElem?_eq_some_iff.mp found).1,
          unreleased, rfl, rfl⟩
  | @persisted key _ token held kept found _ =>
    obtain ⟨known, entry, same, unreleased, filled, named⟩ := lawful.held kept
    cases found.symm.trans same
    refine ⟨?_, less, fun {other index} kept' => ?_⟩
    · exact release_counted lawful.counted found unreleased
    · obtain ⟨member, differs⟩ := mem_filter.mp kept'
      refine (lawful.held member).set ?_
      -- the token of another key holds another outcome
      rintro rfl
      obtain ⟨stored, other, found', -, filled', named'⟩ := lawful.held member
      cases found.symm.trans found'
      cases filled.symm.trans filled'
      exact of_decide_eq_true differs (named'.symm.trans named)
  | @finished token held found vacant unreleased =>
    refine ⟨?_, less, fun kept => (lawful.held kept).set ?_⟩
    · exact release_counted lawful.counted found unreleased
    · exact (lawful.held kept).ne_of_vacant found vacant

theorem Lawful.after (lawful : pool.Lawful) (calls : List Call) : (pool.after calls).Lawful := by
  unfold PendingSettlements.after
  induction calls generalizing pool with
  | nil => exact lawful
  | cons call rest hypothesis =>
    exact hypothesis (lawful.changed (next_changes call))

/-! ### Capacity -/

/-- Capacity is handed out and given back exactly. -/
structure Accounts (pool : PendingSettlements) : Prop where
  /-- What is in use are the tokens that were granted and not yet released. -/
  counted : pool.inUse = outstanding pool.tokens
  bounded : pool.inUse ≤ pool.capacity
  /-- A released token stays released, so the count goes down at most once for it. -/
  released : ∀ (call) {index : ℕ} {token : SettlementAdmission},
    pool.tokens[index]? = some token → token.released = true →
      ∃ later : SettlementAdmission, (pool.next call).tokens[index]? = some later ∧
        later.released = true
  /-- To release a token that is released, or that an outcome is using, changes nothing. -/
  spent : ∀ {index : ℕ} {token : SettlementAdmission}, pool.tokens[index]? = some token →
    token.released = true ∨ token.entry ≠ none → pool.next (.finish index) = pool
  foreign : ∀ {index : ℕ}, pool.tokens[index]? = none → pool.next (.finish index) = pool
  absent : ∀ {key} (expected), key ∉ pool.entries.map Prod.fst →
    pool.persisted key expected = (false, pool)
  /-- What is retained leaves memory only with the answer that it is persisted. -/
  kept : ∀ (call) {key index}, (key, index) ∈ pool.entries →
    (key, index) ∉ (pool.next call).entries →
      ∃ expected, call = .persisted key expected ∧ (pool.persisted key expected).1 = true
  /-- To retain again with the token of an outcome changes nothing, settled or not. -/
  replayed : ∀ {index : ℕ} {token : SettlementAdmission} (lease payload evidence),
    pool.tokens[index]? = some token → token.entry ≠ none →
      pool.next (.retain index lease payload evidence) = pool

section

variable {after : PendingSettlements} {call : Call} (changes : pool.Changes call after)

include changes

theorem Changes.released (found : pool.tokens[index]? = some token)
    (released : token.released = true) :
    ∃ later, after.tokens[index]? = some later ∧ later.released = true := by
  have stays : ∀ {other held changed}, pool.tokens[other]? = some held →
      (held.released = true → changed.released = true) →
      ∃ later, (pool.tokens.set other changed)[index]? = some later ∧ later.released = true := by
    intro other held changed known keeps
    by_cases same : other = index
    · subst same
      cases found.symm.trans known
      exact ⟨changed, List.getElem?_set_self (List.getElem?_eq_some_iff.mp found).1, keeps released⟩
    · exact ⟨token, by rw [List.getElem?_set_ne same, found], released⟩
  cases changes with
  | nothing => exact ⟨token, found, released⟩
  | granted room =>
    exact ⟨token, by
      rw [List.getElem?_append_left (List.getElem?_eq_some_iff.mp found).1, found], released⟩
  | retained known => exact stays known id
  | persisted _ known => exact stays known fun _ => rfl
  | finished known => exact stays known fun _ => rfl

theorem Changes.kept (kept : (key, index) ∈ pool.entries) (gone : (key, index) ∉ after.entries) :
    ∃ expected, call = .persisted key expected ∧ (pool.persisted key expected).1 = true := by
  cases changes with
  | nothing | granted | finished => exact absurd kept gone
  | retained => exact absurd (mem_append_left _ kept) gone
  | @persisted name expected _ _ _ _ done =>
    by_cases same : key = name
    · subst same
      exact ⟨expected, rfl, done⟩
    · exact absurd (mem_filter.mpr ⟨kept, decide_eq_true same⟩) gone

end

theorem Changes.replayed {after : PendingSettlements}
    (changes : pool.Changes (.retain index lease payload evidence) after)
    (found : pool.tokens[index]? = some token) (filled : token.entry ≠ none) : after = pool := by
  cases changes with
  | nothing => rfl
  | retained known vacant => exact absurd (Option.some.inj (found.symm.trans known) ▸ vacant) filled

/-- **Pending settlements are bounded.** After any sequence of calls the tokens in use are those
that were granted and not released, no more than the capacity; to release one again changes
nothing, and an outcome that was retained stays until it is persisted and does not come back. -/
theorem pendingSettlements_accounted (capacity : { capacity : ℕ // 1 ≤ capacity })
    (calls : List Call) : ((create capacity).after calls).Accounts := by
  have lawful : ((create capacity).after calls).Lawful :=
    Lawful.after ⟨rfl, Int.natCast_nonneg _, fun kept => absurd kept not_mem_nil⟩ calls
  refine ⟨lawful.counted, lawful.bounded, fun call => (next_changes call).released, ?_, ?_, ?_,
    fun call => (next_changes call).kept,
    fun lease payload evidence => (next_changes (.retain _ lease payload evidence)).replayed⟩
  · intro index token found spent
    simp only [next, finish, owned, found, present, bind, Except.bind, if_pos spent, pure,
      Except.pure]
  · intro index found
    simp only [next, finish, owned, found, present, bind, Except.bind]
  · intro key expected missing
    have unlisted : ((create capacity).after calls).entries.find? (fun entry => entry.1 = key) =
        none :=
      List.find?_eq_none.mpr fun entry member same =>
        missing (mem_map.mpr ⟨entry, member, of_decide_eq_true same⟩)
    simp only [persisted, unlisted]

end PendingSettlements

end DispatcherSdk.ExecutionKernel
