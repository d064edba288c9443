/-
This file proves the law of the spending ledger over whole histories of calls.

A history keeps, beside the ledger, every call with its answer and the samples it took of the
clock. An account only grows: its terms stay, its time does not go back, and what is recorded of
a request stays recorded, unchanged once it is settled.
-/

import DispatcherSdk.ExecutionKernel.Contracts
import DispatcherSdk.Library.Table
import DispatcherSdk.Library.Transition
import Mathlib.Algebra.BigOperators.Group.List.Basic

namespace DispatcherSdk.Application

open Library
open ExecutionKernel (Timestamp Json FloatArithmetic blank)

/-! ### Checked arguments -/

/-- `BudgetError`, and the argument errors raised before the store is opened. -/
inductive BudgetFailure where
  | value (message : String)
  | budget (message : String)

/-- A text that `_name` accepts. -/
structure BoundedName where
  text : String
  filled : blank text = false
  bounded : text.utf8ByteSize ≤ 4096

instance : DecidableEq BoundedName := fun left right =>
  decidable_of_iff (left.text = right.text)
    ⟨fun same => by cases left; cases right; cases same; rfl, congrArg BoundedName.text⟩

/-- An integer that `_amount` accepts. -/
abbrev Amount := { units : ℕ // units < 2 ^ 63 }

abbrev Deadline := { time : Timestamp // 0 < time }

/-! ### The tables -/

structure Scope where
  runId : BoundedName
  owner : BoundedName
  unit : BoundedName
  deriving DecidableEq

/-- The columns `state` and `actual` of a reservation: only a settled one has an actual usage. -/
inductive ReservationState where
  | reserved
  | unknown
  | settled (actual : Amount)
  deriving DecidableEq

def ReservationState.actual? : ReservationState → Option Amount
  | settled actual => some actual
  | _ => none

/-- A row of `application_reservations`. -/
structure ReservationRow where
  requestId : BoundedName
  amount : Amount
  state : ReservationState

/-- A row of `application_budget_archive`. -/
structure ArchivedRow where
  requestId : BoundedName
  amount : Amount
  actual : Amount

/-- An outstanding reservation as a host reports it. -/
structure LegacyReservation where
  requestId : BoundedName
  amount : Amount
  /-- Its state is `unknown` and not `reserved`. -/
  unresolved : Bool
  deriving DecidableEq

/-- What a host reports of the time before its import. -/
structure Manifest where
  allowance : Amount
  deadline : Deadline
  spent : Amount
  source : BoundedName
  reservations : List LegacyReservation
  deriving DecidableEq

structure Account where
  scope : Scope
  allowance : Amount
  deadline : Deadline
  observedAt : Timestamp
  /-- The row of `application_budget_imports`; its columns `source` and `spent` repeat the
  manifest. -/
  imported : Option Manifest
  reservations : Table ReservationRow.requestId
  archive : Table ArchivedRow.requestId
  /-- The row of `application_budget_archive_totals`, which the store keeps as decimal text. -/
  archivedTotal : Option ℕ

def maxReservations : ℕ := 10000

def maxImportBytes : ℕ := 1048576

namespace Account

/-- The usage a host reported at the import. -/
def importedSpent (account : Account) : ℕ :=
  (account.imported.map fun manifest => manifest.spent.val).getD 0

def archivedSpent (account : Account) : Except BudgetFailure ℕ :=
  match account.archivedTotal with
  | none =>
    if account.archive.rows = [] then .ok 0
    else .error (.budget "archived usage is unavailable")
  | some total =>
    if (toString total).length ≤ 128 then .ok total
    else .error (.budget "invalid archived usage")

/-- What is stored about a request, in either of the two tables. -/
def recorded? (account : Account) (requestId : BoundedName) : Option (Amount × ReservationState) :=
  match account.reservations.find? requestId with
  | some row => some (row.amount, row.state)
  | none =>
    (account.archive.find? requestId).map fun row => (row.amount, .settled row.actual)

/-- `UPDATE application_budgets SET observed_at=?`. -/
def observe (account : Account) (now : Timestamp) : Account := { account with observedAt := now }

/-- The reservations of an account, up to one more than are supported. -/
def readReservations (account : Account) : List ReservationRow :=
  account.reservations.rows.take (maxReservations + 1)

end Account

/-! ### Answers -/

structure Receipt where
  scope : Scope
  requestId : BoundedName
  reserved : Amount
  state : ReservationState
  spendAuthorized : Bool

/-- The answer of `inspect`. -/
structure Inspection where
  scope : Scope
  allowance : Amount
  deadline : Deadline
  spent : ℕ
  reserved : ℕ
  unknownCount : ℕ
  admissionBlocked : Bool
  legacySource : Option BoundedName
  available : Option ℕ

/-- What the calls answer. `create` and `import_legacy` end with a separate `inspect`. -/
inductive BudgetAnswer where
  | done
  | receipt (receipt : Receipt)
  | inspection (inspection : Inspection)
  | archived (count : ℕ)

/-- What a call answers, what it leaves for its scope, and the samples it took of the clock. -/
structure Turn where
  answer : Except BudgetFailure BudgetAnswer
  account : Option Account
  observed : List Timestamp

/-- A call that changes nothing and does not look at the clock. -/
def Turn.still (account : Option Account) (answer : Except BudgetFailure BudgetAnswer) : Turn :=
  ⟨answer, account, []⟩

/-- The clock, asked again and again in the course of one call; `none` is a reading that `_now`
refuses. -/
abbrev Clock := ℕ → Option Timestamp

def unknownClock : BudgetFailure := .budget "budget clock is unknown"

def deadlineElapsed : BudgetFailure := .budget "budget deadline elapsed"

/-! ### Opening an account -/

def Account.fresh (scope : Scope) (allowance : Amount) (deadline : Deadline) (now : Timestamp) :
    Account where
  scope := scope
  allowance := allowance
  deadline := deadline
  observedAt := now
  imported := none
  reservations := ∅
  archive := ∅
  archivedTotal := none

def create (scope : Scope) (allowance : Amount) (deadline : Deadline) (clock : Clock)
    (account : Option Account) : Turn :=
  match account with
  | some old =>
    if old.allowance = allowance ∧ old.deadline = deadline then .still account (.ok .done)
    else .still account (.error (.budget "budget identity already has different terms"))
  | none =>
    match clock 0 with
    | none => .still none (.error unknownClock)
    | some now => ⟨.ok .done, some (.fresh scope allowance deadline now), [now]⟩

/-- The number of bytes that `json.dumps` writes for a lexeme when it escapes everything that is
not ASCII. -/
def asciiBytes (arithmetic : FloatArithmetic) : Json.Lexeme → ℕ
  | .string text => 2 + (text.toList.map escaped).sum
  | lexeme => lexeme.bytes arithmetic
where
  escaped (character : Char) : ℕ :=
    let code := character.toNat
    if code < 127 then Json.Lexeme.bytes.escaped character
    else if code < 65536 then 6
    else 12

/-- A reservation as the manifest lists it. -/
def LegacyReservation.toJson (item : LegacyReservation) : Json :=
  .array [.string item.requestId.text, .ofNat item.amount.val,
    .string (if item.unresolved then "unknown" else "reserved")]

/-- The stored text of a manifest, as a value. -/
def Manifest.toJson (manifest : Manifest) : Json :=
  .object
    [("allowance", .ofNat manifest.allowance.val), ("deadline", .float manifest.deadline.val),
      ("spent", .ofNat manifest.spent.val), ("source", .string manifest.source.text),
      ("reservations", .array (manifest.reservations.map LegacyReservation.toJson))]

/-- `len(manifest.encode("utf-8"))`. -/
def Manifest.bytes (arithmetic : FloatArithmetic) (manifest : Manifest) : ℕ :=
  (manifest.toJson.encode.map (asciiBytes arithmetic)).sum

/-- `items.sort()`; the requests differ, so nothing else is compared. -/
def Manifest.sorted (manifest : Manifest) : Manifest :=
  { manifest with
    reservations := manifest.reservations.insertionSort fun left right =>
      left.requestId.text ≤ right.requestId.text }

def LegacyReservation.row (item : LegacyReservation) : ReservationRow where
  requestId := item.requestId
  amount := item.amount
  state := if item.unresolved then .unknown else .reserved

def Account.ofManifest (scope : Scope) (manifest : Manifest) (now : Timestamp) : Account :=
  { Account.fresh scope manifest.allowance manifest.deadline now with
    imported := some manifest
    reservations := .ofList (manifest.reservations.map LegacyReservation.row) }

/-- The checks of `import_legacy` on its arguments, with the manifest that it stores. -/
def Manifest.check (arithmetic : FloatArithmetic) (manifest : Manifest) :
    Except BudgetFailure Manifest :=
  if maxReservations < manifest.reservations.length then
    .error (.value "reservations must be a bounded list")
  else if ¬ (manifest.reservations.map (·.requestId)).Nodup then
    .error (.value "duplicate legacy reservation")
  else if maxImportBytes < manifest.sorted.bytes arithmetic then
    .error (.value "legacy budget manifest exceeds the byte limit")
  else .ok manifest.sorted

def importLegacy (arithmetic : FloatArithmetic) (scope : Scope) (reported : Manifest)
    (clock : Clock) (account : Option Account) : Turn :=
  match reported.check arithmetic with
  | .error failure => .still account (.error failure)
  | .ok manifest =>
    match account with
    | some old =>
      match old.imported with
      | some stored =>
        if stored = manifest then .still account (.ok .done)
        else .still account (.error (.budget "legacy budget import differs"))
      | none =>
        .still account (.error (.budget "budget already exists without this legacy import"))
    | none =>
      match clock 0 with
      | none => .still none (.error unknownClock)
      | some now => ⟨.ok .done, some (.ofManifest scope manifest now), [now]⟩

/-! ### Reserving -/

/-- A refusal, and whether the time observed until then is stored. -/
structure Refusal where
  failure : BudgetFailure
  committed : Bool

/-- The loop of `reserve` over the reservations: their number and what was used, if nothing is
open. -/
def usage : ℕ → ℕ → List ReservationRow → Except Refusal (ℕ × ℕ)
  | count, used, [] => .ok (count, used)
  | count, used, row :: rest =>
    if maxReservations < count + 1 then
      .error ⟨.budget "budget reservation history exceeds the limit", false⟩
    else
      match row.state with
      | .settled actual => usage (count + 1) (used + actual.val) rest
      | _ => .error ⟨.budget "budget usage is unknown or reservation pending", true⟩

/-- The checks of `reserve` between the first and the second look at the clock. -/
def Account.admit (account : Account) (amount : Amount) : Except Refusal Unit :=
  match account.archivedSpent with
  | .error failure => .error ⟨failure, false⟩
  | .ok archived =>
    match usage 0 (account.importedSpent + archived) account.readReservations with
    | .error refusal => .error refusal
    | .ok (count, used) =>
      if maxReservations ≤ count then
        .error ⟨.budget "budget reservation history is full", true⟩
      else if account.allowance.val < used + amount.val then
        .error ⟨.budget "budget allowance exhausted", true⟩
      else .ok ()

/-- `INSERT INTO application_reservations`. -/
def Account.insert (account : Account) (requestId : BoundedName) (amount : Amount) : Account :=
  { account with reservations := account.reservations.put ⟨requestId, amount, .reserved⟩ }

/-- The end of `reserve`, from its third look at the clock on: the reservation is taken back when
the deadline has passed meanwhile. -/
def confirmReservation (account : Account) (requestId : BoundedName) (amount : Amount)
    (taken : List Timestamp) (now : Timestamp) : Option Timestamp → Turn
  | none => ⟨.error unknownClock, some account, taken⟩
  | some third =>
    let last := max third now
    if account.deadline.val ≤ last then
      ⟨.error deadlineElapsed, some (account.observe last), taken ++ [third]⟩
    else
      ⟨.ok (.receipt ⟨account.scope, requestId, amount, .reserved, true⟩),
        some ((account.observe last).insert requestId amount), taken ++ [third]⟩

/-- The middle of `reserve`, from its second look at the clock on. -/
def stageReservation (account : Account) (requestId : BoundedName) (amount : Amount)
    (clock : Clock) (first now : Timestamp) : Turn :=
  match clock 1 with
  | none => ⟨.error unknownClock, some account, [first]⟩
  | some second =>
    let next := max second now
    if account.deadline.val ≤ next then
      ⟨.error deadlineElapsed, some (account.observe next), [first, second]⟩
    else confirmReservation account requestId amount [first, second] next (clock 2)

/-- A reservation of a request of which nothing is stored. -/
def reserveNew (account : Account) (requestId : BoundedName) (amount : Amount) (clock : Clock) :
    Turn :=
  match clock 0 with
  | none => .still (some account) (.error unknownClock)
  | some first =>
    let now := max first account.observedAt
    if account.deadline.val ≤ now then
      ⟨.error deadlineElapsed, some (account.observe now), [first]⟩
    else
      match account.admit amount with
      | .error refusal =>
        ⟨.error refusal.failure,
          some (if refusal.committed then account.observe now else account), [first]⟩
      | .ok () => stageReservation account requestId amount clock first now

def reserve (requestId : BoundedName) (amount : Amount) (clock : Clock)
    (account : Option Account) : Turn :=
  match account with
  | none => .still none (.error (.budget "budget is unknown"))
  | some open_ =>
    match open_.recorded? requestId with
    | some (reserved, state) =>
      if reserved = amount then
        .still account (.ok (.receipt ⟨open_.scope, requestId, reserved, state, false⟩))
      else
        .still account (.error (.budget "reservation identity already has different amount"))
    | none => reserveNew open_ requestId amount clock

/-! ### Settling -/

/-- `_settle`. -/
def settleRequest (requestId : BoundedName) (actual : Option Amount) (reconciled : Bool)
    (account : Option Account) : Turn :=
  match account with
  | none => .still none (.error (.budget "reservation is unknown"))
  | some open_ =>
    match open_.recorded? requestId with
    | none => .still account (.error (.budget "reservation is unknown"))
    | some (amount, state) =>
      let target : ReservationState := actual.elim .unknown .settled
      if state = target then
        .still account (.ok (.receipt ⟨open_.scope, requestId, amount, state, false⟩))
      else if state.actual?.isSome ∨ (state = .unknown ∧ reconciled = false) ∨
          (reconciled = true ∧ state ≠ .unknown) then
        .still account (.error (.budget "reservation outcome conflicts with existing state"))
      else
        .still
          (some { open_ with
            reservations := open_.reservations.put ⟨requestId, amount, target⟩ })
          (.ok (.receipt ⟨open_.scope, requestId, amount, target, false⟩))

/-! ### Inspecting -/

/-- The sums that `inspect` collects over the reservations. -/
structure Totals where
  spent : ℕ
  reserved : ℕ
  unknown : ℕ
  pending : ℕ

def Totals.add (totals : Totals) (row : ReservationRow) : Totals :=
  match row.state with
  | .settled actual => { totals with spent := totals.spent + actual.val }
  | .reserved =>
    { totals with reserved := totals.reserved + row.amount.val, pending := totals.pending + 1 }
  | .unknown =>
    { totals with
      reserved := totals.reserved + row.amount.val
      unknown := totals.unknown + 1
      pending := totals.pending + 1 }

/-- The answer of `inspect` for an account. -/
def Account.inspect (account : Account) : Except BudgetFailure Inspection :=
  match account.archivedSpent with
  | .error failure => .error failure
  | .ok archived =>
    if maxReservations < account.readReservations.length then
      .error (.budget "budget reservation history exceeds the limit")
    else
      let totals := account.readReservations.foldl Totals.add
        ⟨account.importedSpent + archived, 0, 0, 0⟩
      .ok
        { scope := account.scope
          allowance := account.allowance
          deadline := account.deadline
          spent := totals.spent
          reserved := totals.reserved
          unknownCount := totals.unknown
          admissionBlocked := decide (0 < totals.pending)
          legacySource := account.imported.map (·.source)
          available := if totals.unknown = 0 then
            some (account.allowance.val - totals.spent - totals.reserved) else none }

def inspect (account : Option Account) : Turn :=
  match account with
  | none => .still none (.error (.budget "budget is unknown"))
  | some open_ => .still account (open_.inspect.map .inspection)

/-! ### Archiving -/

/-- The settled requests that one call moves, in their order. -/
def Account.archivable (account : Account) (limit : ℕ) : List ArchivedRow :=
  (((account.reservations.rows.filterMap fun row =>
      row.state.actual?.map fun actual => ArchivedRow.mk row.requestId row.amount actual)).insertionSort
    fun left right => left.requestId.text ≤ right.requestId.text).take limit

/-- The account after rows have moved to the archive, with the total of all archived usage. -/
def Account.moved (account : Account) (rows : List ArchivedRow) (total : ℕ) : Account :=
  { account with
    reservations := account.reservations.keep fun row =>
      decide (row.requestId ∉ rows.map ArchivedRow.requestId)
    archive := rows.foldl Table.put account.archive
    archivedTotal := if rows = [] then account.archivedTotal else some total }

def archiveSettled (limit : ℕ) (account : Option Account) : Turn :=
  if 1 ≤ limit ∧ limit ≤ 500 then
    match account with
    | none => .still none (.error (.budget "budget is unknown"))
    | some open_ =>
      match open_.archivedSpent with
      | .error failure => .still account (.error failure)
      | .ok archived =>
        let rows := open_.archivable limit
        let total := archived + (rows.map fun row => row.actual.val).sum
        if 128 < (toString total).length then
          .still account (.error (.budget "archived usage exceeds limit"))
        -- The primary key of the archive.
        else if ∃ row ∈ rows, (open_.archive.find? row.requestId).isSome then
          .still account (.error (.budget "UNIQUE constraint failed"))
        else .still (some (open_.moved rows total)) (.ok (.archived rows.length))
  else .still account (.error (.value "archive limit must be between 1 and 500"))

/-! ### Calls -/

inductive BudgetCall where
  | create (allowance : Amount) (deadline : Deadline)
  | importLegacy (reported : Manifest)
  | reserve (requestId : BoundedName) (amount : Amount)
  | settle (requestId : BoundedName) (actual : Option Amount)
  | reconcile (requestId : BoundedName) (actual : Amount)
  | archiveSettled (limit : ℕ)
  | inspect

def BudgetCall.turn (arithmetic : FloatArithmetic) (scope : Scope) (clock : Clock)
    (account : Option Account) : BudgetCall → Turn
  | create allowance deadline => Application.create scope allowance deadline clock account
  | importLegacy reported => Application.importLegacy arithmetic scope reported clock account
  | reserve requestId amount => Application.reserve requestId amount clock account
  | settle requestId actual => settleRequest requestId actual false account
  | reconcile requestId actual => settleRequest requestId (some actual) true account
  | archiveSettled limit => Application.archiveSettled limit account
  | inspect => Application.inspect account

open List Option
open ExecutionKernel (Timestamp FloatArithmetic)

/-! ### Usage -/

def ReservationRow.used (row : ReservationRow) : ℕ := (row.state.actual?.map Subtype.val).getD 0

def ReservationRow.isSettled (row : ReservationRow) : Prop := row.state.actual?.isSome

namespace Account

/-- The settled usage of the reservations that are not archived. -/
def liveUsage (account : Account) : ℕ := (account.reservations.rows.map ReservationRow.used).sum

def archivedUsage (account : Account) : ℕ :=
  (account.archive.rows.map fun row => row.actual.val).sum

/-- All that was used: before the import, and by settled requests. -/
def lifetimeUsage (account : Account) : ℕ :=
  account.importedSpent + account.archivedUsage + account.liveUsage

structure Sound (account : Account) : Prop where
  bounded : account.reservations.rows.length ≤ maxReservations
  apart : ∀ row ∈ account.archive, account.reservations.find? row.requestId = none
  totalled : account.archivedTotal =
    if account.archive.rows = [] then none else some account.archivedUsage
  written : (toString account.archivedUsage).length ≤ 128

variable {account : Account}

theorem Sound.archivedSpent (sound : account.Sound) :
    account.archivedSpent = .ok account.archivedUsage := by
  unfold Account.archivedSpent
  rw [sound.totalled]
  by_cases empty : account.archive.rows = []
  · rw [if_pos empty]
    simp [empty, archivedUsage]
  · rw [if_neg empty]
    exact if_pos sound.written

theorem Sound.readReservations (sound : account.Sound) :
    account.readReservations = account.reservations.rows :=
  take_of_length_le (sound.bounded.trans (Nat.le_succ _))

end Account

/-! ### What the loops compute -/

/-- The loop of `reserve` succeeds if nothing is open, and sums the usage up. -/
theorem usage_eq_ok {rows : List ReservationRow} {count used : ℕ} {result : ℕ × ℕ}
    (passed : usage count used rows = .ok result) :
    (∀ row ∈ rows, row.isSettled) ∧ result.1 = count + rows.length ∧
      result.2 = used + (rows.map ReservationRow.used).sum ∧
      (rows ≠ [] → result.1 ≤ maxReservations) := by
  induction rows generalizing count used with
  | nil =>
    cases passed
    simp
  | cons row rest hypothesis =>
    unfold usage at passed
    split at passed
    · cases passed
    · rename_i within
      split at passed
      · rename_i actual state
        obtain ⟨settled, counted, summed, bounded⟩ := hypothesis passed
        have own : row.used = actual.val := by simp [ReservationRow.used, state,
          ReservationState.actual?]
        refine ⟨?_, ?_, ?_, ?_⟩
        · rw [forall_mem_cons]
          exact ⟨by simp [ReservationRow.isSettled, state, ReservationState.actual?], settled⟩
        · rw [counted, length_cons]
          omega
        · rw [summed, map_cons, sum_cons, own]
          omega
        · intro _
          cases rest with
          | nil =>
            simp only [length_nil] at counted
            omega
          | cons next others => exact bounded (cons_ne_nil _ _)
      · cases passed

variable {amount : Amount}

theorem Account.admit_eq_ok {account : Account} (sound : account.Sound)
    (admitted : account.admit amount = .ok ()) :
    (∀ row ∈ account.reservations, row.isSettled) ∧
      account.lifetimeUsage + amount.val ≤ account.allowance.val ∧
      account.reservations.rows.length < maxReservations := by
  unfold Account.admit at admitted
  rw [sound.archivedSpent, sound.readReservations] at admitted
  dsimp only at admitted
  split at admitted
  · cases admitted
  · rename_i count used passed
    obtain ⟨settled, counted, summed, -⟩ := usage_eq_ok passed
    dsimp only at counted summed
    split at admitted
    · cases admitted
    · rename_i room
      split at admitted
      · cases admitted
      · rename_i fits
        refine ⟨settled, ?_, by omega⟩
        unfold Account.lifetimeUsage Account.liveUsage
        omega

/-- The sums that `inspect` collects, without its loop. -/
theorem totals_foldl (rows : List ReservationRow) (start : Totals) :
    rows.foldl Totals.add start =
      { spent := start.spent + (rows.map ReservationRow.used).sum
        reserved := start.reserved + (rows.map fun row => (Totals.add ⟨0, 0, 0, 0⟩ row).reserved).sum
        unknown := start.unknown + (rows.map fun row => (Totals.add ⟨0, 0, 0, 0⟩ row).unknown).sum
        pending := start.pending + (rows.map fun row => (Totals.add ⟨0, 0, 0, 0⟩ row).pending).sum } := by
  induction rows generalizing start with
  | nil => simp
  | cons row rest hypothesis =>
    rw [foldl_cons, hypothesis]
    simp only [map_cons, sum_cons, Totals.add, ReservationRow.used]
    cases row.state <;> simp [ReservationState.actual?, Nat.add_assoc]

/-! ### Moves -/

/-- A request is authorised: nothing was stored of it, the account admits it, and the deadline lies
behind no sample. -/
structure Account.Grants (before after : Account) (observed : List Timestamp)
    (requestId : BoundedName) (amount : Amount) (now : Timestamp) : Prop where
  later : before.observedAt ≤ now
  seen : ∀ sample ∈ observed, sample ≤ now
  early : now < before.deadline.val
  unrecorded : before.recorded? requestId = none
  admitted : before.admit amount = .ok ()
  stored : after = (before.observe now).insert requestId amount

/-- What a call does to an account that exists, and the samples it took meanwhile. -/
inductive Account.Moves (before : Account) : Account → List Timestamp → Prop
  /-- Nothing is stored; the deadline was not reached by any sample. -/
  | still {observed : List Timestamp} (early : ∀ sample ∈ observed, sample < before.deadline.val) :
      Moves before before observed
  /-- The time observed is stored. -/
  | looked {now : Timestamp} {observed : List Timestamp} (later : before.observedAt ≤ now)
      (seen : ∀ sample ∈ observed, sample ≤ now) : Moves before (before.observe now) observed
  /-- A request is authorised. -/
  | reserved {after : Account} {observed : List Timestamp} {requestId : BoundedName}
      {amount : Amount} {now : Timestamp}
      (grants : before.Grants after observed requestId amount now) : Moves before after observed
  /-- An open request is settled, or its outcome becomes unknown. -/
  | settled {row : ReservationRow} {state : ReservationState}
      (stored : before.reservations.find? row.requestId = some row)
      (pending : row.state.actual? = none) :
      Moves before { before with
        reservations := before.reservations.put ⟨row.requestId, row.amount, state⟩ } []
  /-- Settled requests move to the archive. -/
  | archived {limit : ℕ}
      (short : (toString (before.archivedUsage +
        ((before.archivable limit).map fun row => row.actual.val).sum)).length ≤ 128) :
      Moves before (before.moved (before.archivable limit)
        (before.archivedUsage + ((before.archivable limit).map fun row => row.actual.val).sum)) []

def Denies (answer : Except BudgetFailure BudgetAnswer) : Prop :=
  ∀ receipt, answer = .ok (.receipt receipt) → receipt.spendAuthorized = false

theorem denies_error (failure : BudgetFailure) : Denies (.error failure) := nofun

theorem denies_done : Denies (.ok .done) := nofun

variable {requestId : BoundedName}

theorem denies_receipt {scope : Scope}
    {state : ReservationState} : Denies (.ok (.receipt ⟨scope, requestId, amount, state, false⟩)) := by
  rintro _ ⟨⟩
  rfl

inductive Turn.Follows (scope : Scope) : Option Account → Turn → Prop
  /-- Without an account nothing happens. -/
  | absent {answer : Except BudgetFailure BudgetAnswer}
      (denied : Denies answer) : Follows scope none (.still none answer)
  /-- An account is opened. -/
  | opened {account : Account} {now : Timestamp} (own : account.scope = scope)
      (sound : account.Sound) (observed : account.observedAt = now) :
      Follows scope none ⟨.ok .done, some account, [now]⟩
  /-- An account moves, and authorises nothing unless it grants it. -/
  | moved {before after : Account} {observed : List Timestamp}
      {answer : Except BudgetFailure BudgetAnswer} (moves : before.Moves after observed)
      (granted : ∀ receipt, answer = .ok (.receipt receipt) → receipt.spendAuthorized = true →
        ∃ now, before.Grants after observed receipt.requestId receipt.reserved now) :
      Follows scope (some before) ⟨answer, some after, observed⟩

section Turns

variable {scope : Scope} {clock : Clock} {account : Account}

variable {answer : Except BudgetFailure BudgetAnswer}

theorem follows_still (denied : Denies answer) :
    Turn.Follows scope (some account) (.still (some account) answer) := by
  refine .moved (.still ?_) fun receipt answered allowed => ?_
  · intro sample member
    cases member
  · rw [denied receipt answered] at allowed
    cases allowed

theorem follows_denied {after : Account} {observed : List Timestamp}
    (moves : account.Moves after observed) (denied : Denies answer) :
    Turn.Follows scope (some account) ⟨answer, some after, observed⟩ := by
  refine .moved moves fun receipt answered allowed => ?_
  rw [denied receipt answered] at allowed
  cases allowed

theorem fresh_sound (allowance : Amount) (deadline : Deadline) (now : Timestamp) :
    (Account.fresh scope allowance deadline now).Sound where
  bounded := Nat.zero_le _
  apart := nofun
  totalled := rfl
  written := show (toString 0).length ≤ 128 by decide

variable {stored : Option Account}

theorem create_follows {allowance : Amount} {deadline : Deadline} :
    Turn.Follows scope stored (create scope allowance deadline clock stored) := by
  unfold create
  cases stored with
  | some old =>
    dsimp only
    split
    · exact follows_still denies_done
    · exact follows_still (denies_error _)
  | none =>
    cases clock 0 with
    | none => exact .absent (denies_error _)
    | some now => exact .opened rfl (fresh_sound allowance deadline now) rfl

theorem length_ofList (rows : List ReservationRow) :
    (Table.ofList rows : Table ReservationRow.requestId).rows.length ≤ rows.length := by
  induction rows with
  | nil => exact Nat.le_refl 0
  | cons row rest hypothesis =>
    refine Nat.succ_le_succ (le_trans ?_ hypothesis)
    exact length_filter_le _ _

theorem importLegacy_follows {arithmetic : FloatArithmetic} {reported : Manifest} :
    Turn.Follows scope stored (importLegacy arithmetic scope reported clock stored) := by
  unfold importLegacy
  cases checked : reported.check arithmetic with
  | error failure =>
    cases stored with
    | none => exact .absent (denies_error _)
    | some old => exact follows_still (denies_error _)
  | ok manifest =>
    cases stored with
    | some old =>
      dsimp only
      split
      · split
        · exact follows_still denies_done
        · exact follows_still (denies_error _)
      · exact follows_still (denies_error _)
    | none =>
      cases clock 0 with
      | none => exact .absent (denies_error _)
      | some now =>
        refine .opened rfl ⟨?_, nofun, rfl, show (toString 0).length ≤ 128 by decide⟩ rfl
        unfold Manifest.check at checked
        split at checked
        · cases checked
        · rename_i few
          split at checked
          · cases checked
          · split at checked
            · cases checked
            · cases checked
              refine (length_ofList _).trans ?_
              simp only [Manifest.sorted, length_map, length_insertionSort]
              omega

theorem reserve_follows : Turn.Follows scope stored (reserve requestId amount clock stored) := by
  unfold reserve
  cases stored with
  | none => exact .absent (denies_error _)
  | some before =>
    dsimp only
    cases recorded : before.recorded? requestId with
    | some found =>
      dsimp only
      split
      · exact follows_still denies_receipt
      · exact follows_still (denies_error _)
    | none =>
      dsimp only
      unfold reserveNew
      cases clock 0 with
      | none => exact follows_still (denies_error _)
      | some first =>
        dsimp only
        have start : before.observedAt ≤ max first before.observedAt := le_max_right _ _
        have firstSeen : first ≤ max first before.observedAt := le_max_left _ _
        generalize max first before.observedAt = now at start firstSeen ⊢
        split
        · exact follows_denied (.looked start (by simpa using firstSeen)) (denies_error _)
        · rename_i early
          have before_deadline := lt_of_not_ge early
          cases admitted : before.admit amount with
          | error refusal =>
            dsimp only
            refine follows_denied ?_ (denies_error _)
            split
            · exact .looked start (by simpa using firstSeen)
            · exact .still (by simpa using lt_of_le_of_lt firstSeen before_deadline)
          | ok _ =>
            dsimp only
            unfold stageReservation
            cases clock 1 with
            | none =>
              refine follows_denied (.still ?_) (denies_error _)
              simpa using lt_of_le_of_lt firstSeen before_deadline
            | some second =>
              dsimp only
              have nextLater : now ≤ max second now := le_max_right _ _
              have secondSeen : second ≤ max second now := le_max_left _ _
              generalize max second now = next at nextLater secondSeen ⊢
              have both : ∀ sample ∈ [first, second], sample ≤ next := by
                simpa using ⟨firstSeen.trans nextLater, secondSeen⟩
              split
              · exact follows_denied (.looked (start.trans nextLater) both) (denies_error _)
              · rename_i stillEarly
                have stillBefore := lt_of_not_ge stillEarly
                unfold confirmReservation
                cases clock 2 with
                | none =>
                  refine follows_denied (.still ?_) (denies_error _)
                  exact fun sample member => lt_of_le_of_lt (both sample member) stillBefore
                | some third =>
                  dsimp only
                  have lastLater : next ≤ max third next := le_max_right _ _
                  have thirdSeen : third ≤ max third next := le_max_left _ _
                  generalize max third next = last at lastLater thirdSeen ⊢
                  have all : ∀ sample ∈ [first, second] ++ [third], sample ≤ last := by
                    simp only [mem_append, mem_singleton]
                    rintro sample (member | rfl)
                    · exact (both sample member).trans lastLater
                    · exact thirdSeen
                  have reached := (start.trans nextLater).trans lastLater
                  split
                  · exact follows_denied (.looked reached all) (denies_error _)
                  · rename_i inTime
                    have grants : before.Grants ((before.observe last).insert requestId amount)
                        ([first, second] ++ [third]) requestId amount last :=
                      ⟨reached, all, lt_of_not_ge inTime, recorded, admitted, rfl⟩
                    refine .moved (.reserved grants) ?_
                    rintro receipt ⟨⟩ -
                    exact ⟨last, grants⟩

theorem Account.pending_stored {state : ReservationState}
    (recorded : account.recorded? requestId = some (amount, state))
    (pending : state.actual? = none) :
    account.reservations.find? requestId = some ⟨requestId, amount, state⟩ := by
  unfold Account.recorded? at recorded
  cases found : account.reservations.find? requestId with
  | some row =>
    rw [found] at recorded
    cases recorded
    rw [← Table.key_of_find? found]
  | none =>
    rw [found] at recorded
    simp only [map_eq_some_iff, Prod.mk.injEq] at recorded
    obtain ⟨row, -, -, rfl⟩ := recorded
    cases pending

theorem settleRequest_follows {actual : Option Amount} {reconciled : Bool} :
    Turn.Follows scope stored (settleRequest requestId actual reconciled stored) := by
  unfold settleRequest
  cases stored with
  | none => exact .absent (denies_error _)
  | some before =>
    dsimp only
    cases recorded : before.recorded? requestId with
    | none => exact follows_still (denies_error _)
    | some found =>
      obtain ⟨amount, state⟩ := found
      dsimp only
      split
      · exact follows_still denies_receipt
      · split
        · exact follows_still (denies_error _)
        · rename_i fits
          simp only [not_or, Bool.not_eq_true, isSome_eq_false_iff,
            isNone_iff_eq_none] at fits
          have found := Account.pending_stored recorded fits.1
          have moves : before.Moves { before with
              reservations := before.reservations.put
                ⟨requestId, amount, actual.elim .unknown .settled⟩ } [] :=
            @Account.Moves.settled before ⟨requestId, amount, state⟩ _ found fits.1
          exact follows_denied moves denies_receipt

theorem inspect_follows : Turn.Follows scope stored (inspect stored) := by
  unfold inspect
  cases stored with
  | none => exact .absent (denies_error _)
  | some before =>
    refine follows_still fun receipt answered => ?_
    cases shown : before.inspect <;> rw [shown] at answered <;> cases answered

theorem archiveSettled_follows {limit : ℕ} (sound : ∀ before ∈ stored, before.Sound) :
    Turn.Follows scope stored (archiveSettled limit stored) := by
  unfold archiveSettled
  cases stored with
  | none => split <;> exact .absent (denies_error _)
  | some before =>
    have spent := (sound before rfl).archivedSpent
    split
    · dsimp only
      rw [spent]
      dsimp only
      split
      · exact follows_still (denies_error _)
      · rename_i short
        split
        · exact follows_still (denies_error _)
        · exact follows_denied (.archived (Nat.le_of_not_lt short)) nofun
    · exact follows_still (denies_error _)

theorem BudgetCall.follows (arithmetic : FloatArithmetic) (call : BudgetCall)
    (sound : ∀ before ∈ stored, before.Sound) :
    Turn.Follows scope stored (call.turn arithmetic scope clock stored) := by
  cases call with
  | create allowance deadline => exact create_follows
  | importLegacy reported => exact importLegacy_follows
  | reserve requestId amount => exact reserve_follows
  | settle requestId actual => exact settleRequest_follows
  | reconcile requestId actual => exact settleRequest_follows
  | archiveSettled limit => exact archiveSettled_follows sound
  | inspect => exact inspect_follows

end Turns

/-! ### Archiving changes nothing that is seen -/

section Archiving

variable {account : Account} {limit total : ℕ}

/-- A reservation as a row of the archive, if it is settled. -/
def ReservationRow.archived? (row : ReservationRow) : Option ArchivedRow :=
  row.state.actual?.map fun actual => ⟨row.requestId, row.amount, actual⟩

variable {row : ReservationRow} {archived : ArchivedRow}

theorem ReservationRow.archived?_eq_some :
    row.archived? = some archived ↔
      row = ⟨archived.requestId, archived.amount, .settled archived.actual⟩ := by
  obtain ⟨requestId, amount, state⟩ := row
  obtain ⟨_, _, _⟩ := archived
  cases state <;> simp [archived?, ReservationState.actual?]

theorem Account.mem_archivable (member : archived ∈ account.archivable limit) :
    (⟨archived.requestId, archived.amount, .settled archived.actual⟩ : ReservationRow) ∈
      account.reservations := by
  have sorted := mem_of_mem_take member
  rw [mem_insertionSort, mem_filterMap] at sorted
  obtain ⟨row, stored, shown⟩ := sorted
  rw [← ReservationRow.archived?_eq_some.mp shown]
  exact stored

theorem requestIds_filterMap (rows : List ReservationRow) :
    ((rows.filterMap ReservationRow.archived?).map ArchivedRow.requestId).Sublist
      (rows.map ReservationRow.requestId) := by
  induction rows with
  | nil => exact .slnil
  | cons row rest hypothesis =>
    rw [map_cons]
    cases shown : row.archived? with
    | none =>
      rw [filterMap_cons_none shown]
      exact hypothesis.cons _
    | some archived =>
      rw [filterMap_cons_some shown, map_cons,
        ReservationRow.archived?_eq_some.mp shown]
      exact hypothesis.cons_cons _

theorem Account.archivable_nodup :
    ((account.archivable limit).map ArchivedRow.requestId).Nodup := by
  have listed := account.reservations.unique.sublist
    (requestIds_filterMap account.reservations.rows)
  have sorted := ((perm_insertionSort
    (fun left right : ArchivedRow => left.requestId.text ≤ right.requestId.text)
    (account.reservations.rows.filterMap ReservationRow.archived?)).map
      ArchivedRow.requestId).nodup_iff.mpr listed
  exact sorted.sublist ((take_sublist _ _).map _)

theorem Account.archivable_of_stored
    (stored : row ∈ account.reservations) (member : archived ∈ account.archivable limit)
    (same : row.requestId = archived.requestId) : row.archived? = some archived := by
  rw [ReservationRow.archived?_eq_some]
  exact Table.eq_of_key_eq stored (mem_archivable member) same

theorem find?_foldl_put {rows : List ArchivedRow} {table : Table ArchivedRow.requestId}
    (distinct : (rows.map ArchivedRow.requestId).Nodup) (requestId : BoundedName) :
    (rows.foldl Table.put table).find? requestId =
      (rows.find? fun row => row.requestId = requestId).or (table.find? requestId) := by
  induction rows generalizing table with
  | nil => rfl
  | cons row rest hypothesis =>
    rw [map_cons, nodup_cons] at distinct
    rw [foldl_cons, hypothesis distinct.2, Table.find?_put, List.find?_cons]
    by_cases same : row.requestId = requestId
    · have missing : rest.find? (fun row => row.requestId = requestId) = none := by
        rw [List.find?_eq_none]
        intro other member equal
        have clash : other.requestId = row.requestId := by
          rw [same]
          exact of_decide_eq_true equal
        exact distinct.1 (clash ▸ mem_map_of_mem member)
      simp [same, missing]
    · rw [if_neg (Ne.symm same)]
      simp [same]

theorem Account.find?_kept :
    (account.moved (account.archivable limit) total).reservations.find? requestId =
      if requestId ∈ (account.archivable limit).map ArchivedRow.requestId then none
      else account.reservations.find? requestId := by
  unfold moved
  by_cases moving : requestId ∈ (account.archivable limit).map ArchivedRow.requestId
  · rw [if_pos moving, Table.find?_eq_none_iff]
    intro row member same
    have stays := of_decide_eq_true (Table.mem_keep.mp member).2
    rw [same] at stays
    exact stays moving
  · rw [if_neg moving]
    cases found : account.reservations.find? requestId with
    | none =>
      rw [Table.find?_eq_none_iff] at found ⊢
      exact fun row member => found row (Table.mem_keep.mp member).1
    | some row =>
      rw [Table.find?_eq_some_iff] at found ⊢
      refine ⟨Table.mem_keep.mpr ⟨found.1, decide_eq_true ?_⟩, found.2⟩
      rw [found.2]
      exact moving

theorem Account.recorded?_moved (requestId : BoundedName) :
    (account.moved (account.archivable limit) total).recorded? requestId =
      account.recorded? requestId := by
  unfold recorded?
  rw [find?_kept]
  have archive : (account.moved (account.archivable limit) total).archive.find? requestId =
      ((account.archivable limit).find? fun row => row.requestId = requestId).or
        (account.archive.find? requestId) :=
    find?_foldl_put archivable_nodup requestId
  by_cases moving : requestId ∈ (account.archivable limit).map ArchivedRow.requestId
  · rw [if_pos moving, archive]
    obtain ⟨archived, member, rfl⟩ := mem_map.mp moving
    have own : (account.archivable limit).find? (fun row => row.requestId = archived.requestId) =
        some archived := by
      cases found : (account.archivable limit).find? fun row =>
          row.requestId = archived.requestId with
      | none =>
        have missing := List.find?_eq_none.mp found archived member
        simp at missing
      | some other =>
        have same : other.requestId = archived.requestId := by
          simpa using List.find?_some found
        rw [inj_on_of_nodup_map archivable_nodup (mem_of_find?_eq_some found) member same]
    rw [own, Table.find?_key (mem_archivable member)]
    rfl
  · rw [if_neg moving, archive]
    have missing : (account.archivable limit).find? (fun row => row.requestId = requestId) =
        none := by
      rw [List.find?_eq_none]
      intro row member same
      exact moving (mem_map.mpr ⟨row, member, of_decide_eq_true same⟩)
    rw [missing]
    rfl

theorem Account.leaving_perm :
    ((account.reservations.rows.filter fun row =>
        decide (row.requestId ∈ (account.archivable limit).map ArchivedRow.requestId)).filterMap
      ReservationRow.archived?).Perm (account.archivable limit) := by
  refine (perm_ext_iff_of_nodup ?_ archivable_nodup.of_map).mpr fun archived => ?_
  · refine List.Nodup.of_map ArchivedRow.requestId ?_
    exact (account.reservations.unique.sublist (filter_sublist.map _)).sublist
      (requestIds_filterMap _)
  · rw [mem_filterMap]
    refine ⟨?_, fun member => ?_⟩
    · rintro ⟨row, leaving, shown⟩
      obtain ⟨stored, among⟩ := mem_filter.mp leaving
      obtain ⟨other, member, same⟩ := mem_map.mp (of_decide_eq_true among)
      have found := archivable_of_stored stored member same.symm
      rw [found] at shown
      cases shown
      exact member
    · refine ⟨_, mem_filter.mpr ⟨mem_archivable member, decide_eq_true ?_⟩,
        ReservationRow.archived?_eq_some.mpr rfl⟩
      exact mem_map_of_mem member

theorem sum_leaving_staying (rows : List ReservationRow) (leaves : ReservationRow → Bool)
    (weight : ReservationRow → ℕ) :
    (rows.map weight).sum = ((rows.filter leaves).map weight).sum +
      ((rows.filter fun row => !leaves row).map weight).sum := by
  rw [← sum_append, ← map_append]
  exact ((filter_append_perm leaves rows).map weight).sum_eq.symm

theorem Account.leaving_settled (leaving : row ∈ account.reservations.rows.filter fun row =>
      decide (row.requestId ∈ (account.archivable limit).map ArchivedRow.requestId)) :
    ∃ archived, row.archived? = some archived := by
  obtain ⟨stored, among⟩ := mem_filter.mp leaving
  obtain ⟨archived, member, same⟩ := mem_map.mp (of_decide_eq_true among)
  exact ⟨archived, archivable_of_stored stored member same.symm⟩

theorem sum_used_settled {rows : List ReservationRow}
    (settled : ∀ row ∈ rows, ∃ archived, row.archived? = some archived) :
    (rows.map ReservationRow.used).sum =
      ((rows.filterMap ReservationRow.archived?).map fun row => row.actual.val).sum := by
  induction rows with
  | nil => rfl
  | cons row rest hypothesis =>
    rw [forall_mem_cons] at settled
    obtain ⟨archived, shown⟩ := settled.1
    rw [filterMap_cons_some shown, map_cons, map_cons, sum_cons,
      sum_cons, hypothesis settled.2]
    have used : row.used = archived.actual.val := by
      rw [ReservationRow.archived?_eq_some.mp shown]
      rfl
    rw [used]

theorem Account.kept_rows (rows : List ArchivedRow) :
    (account.moved rows total).reservations.rows = account.reservations.rows.filter fun row =>
        !decide (row.requestId ∈ rows.map ArchivedRow.requestId) := by
  refine filter_congr fun row _ => ?_
  exact decide_not

variable (limit total) in
theorem Account.liveUsage_moved (account : Account) :
    account.liveUsage = ((account.archivable limit).map fun row => row.actual.val).sum +
      (account.moved (account.archivable limit) total).liveUsage := by
  unfold liveUsage
  rw [kept_rows, sum_leaving_staying account.reservations.rows (fun row =>
    decide (row.requestId ∈ (account.archivable limit).map ArchivedRow.requestId)),
    sum_used_settled fun row leaving => leaving_settled leaving,
    (leaving_perm.map fun row : ArchivedRow => row.actual.val).sum_eq]

variable (limit total) in
theorem Account.weight_moved (weight : ReservationRow → ℕ)
    (light : ∀ row archived, row.archived? = some archived → weight row = 0) :
    ((account.moved (account.archivable limit) total).reservations.rows.map weight).sum =
      (account.reservations.rows.map weight).sum := by
  rw [kept_rows, sum_leaving_staying account.reservations.rows (fun row =>
    decide (row.requestId ∈ (account.archivable limit).map ArchivedRow.requestId))]
  have nothing : ((account.reservations.rows.filter fun row => decide (row.requestId ∈
      (account.archivable limit).map ArchivedRow.requestId)).map weight).sum = 0 := by
    refine sum_eq_zero fun value member => ?_
    obtain ⟨row, leaving, rfl⟩ := mem_map.mp member
    obtain ⟨archived, shown⟩ := leaving_settled leaving
    exact light row archived shown
  rw [nothing, Nat.zero_add]

variable (limit total) in
theorem Account.archive_perm (sound : account.Sound) :
    ((account.moved (account.archivable limit) total).archive.rows).Perm
      (account.archivable limit ++ account.archive.rows) := by
  have distinct : ((account.archivable limit).map ArchivedRow.requestId).Nodup := archivable_nodup
  have fresh : ∀ archived ∈ account.archivable limit,
      ∀ row ∈ account.archive, row.requestId ≠ archived.requestId := by
    intro archived member row stored same
    have absent := sound.apart row stored
    rw [same, Table.find?_eq_none_iff] at absent
    exact absent _ (mem_archivable member) rfl
  have general : ∀ (rows : List ArchivedRow) (table : Table ArchivedRow.requestId),
      (rows.map ArchivedRow.requestId).Nodup →
      (∀ archived ∈ rows, ∀ row ∈ table, row.requestId ≠ archived.requestId) →
      (rows.foldl Table.put table).rows.Perm (rows ++ table.rows) := by
    intro rows
    induction rows with
    | nil => exact fun table _ _ => .refl _
    | cons archived rest hypothesis =>
      intro table nodup apart
      rw [map_cons, nodup_cons] at nodup
      rw [foldl_cons]
      have put_rows : (table.put archived).rows = archived :: table.rows := by
        unfold Table.put
        dsimp only
        rw [filter_eq_self.mpr]
        intro row stored
        simpa using apart archived mem_cons_self row stored
      refine (hypothesis (table.put archived) nodup.2 ?_).trans ?_
      · intro other member row stored
        rw [Table.mem_rows, put_rows, mem_cons] at stored
        rcases stored with rfl | stored
        · intro same
          exact nodup.1 (same ▸ mem_map_of_mem member)
        · exact apart other (mem_cons_of_mem _ member) row stored
      · rw [put_rows, cons_append]
        exact perm_middle
  exact general _ _ distinct fresh

theorem Account.archivedUsage_moved (sound : account.Sound) :
    (account.moved (account.archivable limit) total).archivedUsage =
      account.archivedUsage + ((account.archivable limit).map fun row => row.actual.val).sum := by
  unfold archivedUsage
  rw [((archive_perm limit total sound).map fun row : ArchivedRow => row.actual.val).sum_eq, map_append,
    sum_append, Nat.add_comm]

end Archiving

open ExecutionKernel (Timestamp FloatArithmetic)

/-! ### What a move keeps -/

structure Account.Grows (before after : Account) : Prop where
  scope : after.scope = before.scope
  deadline : after.deadline = before.deadline
  later : before.observedAt ≤ after.observedAt
  recorded : ∀ requestId amount state, before.recorded? requestId = some (amount, state) →
    ∃ now, after.recorded? requestId = some (amount, now) ∧ (state.actual?.isSome → now = state)

theorem Account.Grows.refl (account : Account) : account.Grows account :=
  ⟨rfl, rfl, le_refl _, fun _ _ state stored => ⟨state, stored, fun _ => rfl⟩⟩

theorem Account.Grows.trans {first second third : Account} (start : first.Grows second)
    (next : second.Grows third) : first.Grows third where
  scope := next.scope.trans start.scope
  deadline := next.deadline.trans start.deadline
  later := start.later.trans next.later
  recorded requestId amount state stored := by
    obtain ⟨middle, found, kept⟩ := start.recorded requestId amount state stored
    obtain ⟨last, shown, still⟩ := next.recorded requestId amount middle found
    refine ⟨last, shown, fun settled => ?_⟩
    have same := kept settled
    rw [← same]
    exact still (same ▸ settled)

section Moves

variable {before after : Account} {observed : List Timestamp}

variable {row : ReservationRow}

/-- Of an account that holds one more or another reservation, what is recorded of other requests is
as it was. -/
theorem Account.recorded?_put (other : requestId ≠ row.requestId) :
    ({ before with reservations := before.reservations.put row } : Account).recorded? requestId =
      before.recorded? requestId := by
  unfold recorded?
  rw [Table.find?_put_other _ other]

theorem Account.recorded?_put_same :
    ({ before with reservations := before.reservations.put row } : Account).recorded?
      row.requestId = some (row.amount, row.state) := by
  unfold recorded?
  rw [Table.find?_put_same]

theorem Account.unrecorded (unrecorded : before.recorded? requestId = none) :
    before.reservations.find? requestId = none ∧ before.archive.find? requestId = none := by
  unfold recorded? at unrecorded
  cases found : before.reservations.find? requestId with
  | some row =>
    rw [found] at unrecorded
    cases unrecorded
  | none =>
    rw [found] at unrecorded
    exact ⟨rfl, map_eq_none_iff.mp unrecorded⟩

theorem Account.recorded?_of_stored (stored : before.reservations.find? row.requestId = some row) :
    before.recorded? row.requestId = some (row.amount, row.state) := by
  unfold recorded?
  rw [stored]

theorem Account.Moves.grows (moves : before.Moves after observed) : before.Grows after := by
  cases moves with
  | still early => exact .refl before
  | looked later seen =>
    exact ⟨rfl, rfl, later, fun _ _ state stored => ⟨state, stored, fun _ => rfl⟩⟩
  | reserved grants =>
    rename_i requestId amount now
    rw [grants.stored]
    refine ⟨rfl, rfl, grants.later, fun other reserved state stored => ?_⟩
    have differs : other ≠ requestId := by
      rintro rfl
      rw [grants.unrecorded] at stored
      cases stored
    refine ⟨state, ?_, fun _ => rfl⟩
    have same : ((before.observe now).insert requestId amount).recorded? other =
        (before.observe now).recorded? other := Account.recorded?_put differs
    rw [same]
    exact stored
  | settled stored pending =>
    rename_i row state
    refine ⟨rfl, rfl, le_refl _, fun other amount recorded found => ?_⟩
    by_cases same : other = row.requestId
    · rw [same, Account.recorded?_of_stored stored] at found
      obtain ⟨rfl, rfl⟩ := Prod.mk.inj (Option.some.inj found)
      refine ⟨state, ?_, fun settled => ?_⟩
      · rw [same]
        exact Account.recorded?_put_same
      · rw [pending] at settled
        cases settled
    · refine ⟨recorded, ?_, fun _ => rfl⟩
      rw [← found]
      exact Account.recorded?_put same
  | archived short =>
    refine ⟨rfl, rfl, le_refl _, fun requestId amount state stored => ?_⟩
    refine ⟨state, ?_, fun _ => rfl⟩
    rw [Account.recorded?_moved]
    exact stored

theorem Account.Moves.observes (moves : before.Moves after observed) :
    ∀ sample ∈ observed, before.deadline.val ≤ sample → sample ≤ after.observedAt := by
  intro sample member reached
  cases moves with
  | still early => exact absurd reached (not_le_of_gt (early sample member))
  | looked later seen => exact seen sample member
  | reserved grants =>
    rw [grants.stored]
    exact grants.seen sample member
  | settled stored pending => cases member
  | archived short => cases member

theorem Account.Moves.sound (moves : before.Moves after observed) (sound : before.Sound) :
    after.Sound := by
  cases moves with
  | still early => exact sound
  | looked later seen => exact ⟨sound.bounded, sound.apart, sound.totalled, sound.written⟩
  | reserved grants =>
    rename_i requestId amount now
    rw [grants.stored]
    obtain ⟨-, -, room⟩ := Account.admit_eq_ok sound grants.admitted
    obtain ⟨-, fresh⟩ := Account.unrecorded grants.unrecorded
    refine ⟨?_, fun row archived => ?_, sound.totalled, sound.written⟩
    · exact (Nat.succ_le_succ (length_filter_le _ _)).trans room
    · have differs : row.requestId ≠ requestId :=
        fun same => Table.find?_eq_none_iff.mp fresh row archived same
      have same : ((before.observe now).insert requestId amount).reservations.find? row.requestId =
          before.reservations.find? row.requestId := Table.find?_put_other _ differs
      rw [same]
      exact sound.apart row archived
  | settled stored pending =>
    rename_i row state
    refine ⟨?_, fun archived member => ?_, sound.totalled, sound.written⟩
    · refine le_trans (Nat.succ_le_of_lt ?_) sound.bounded
      rw [length_filter_lt_length_iff_exists]
      exact ⟨row, Table.mem_of_find? stored, by simp⟩
    · have absent := sound.apart archived member
      have differs : archived.requestId ≠ row.requestId := by
        intro same
        rw [same, stored] at absent
        cases absent
      have same : (before.reservations.put ⟨row.requestId, row.amount, state⟩).find?
          archived.requestId = before.reservations.find? archived.requestId :=
        Table.find?_put_other _ differs
      exact same.trans absent
  | archived short =>
    rename_i limit
    refine ⟨(length_filter_le _ _).trans sound.bounded, fun row member => ?_, ?_, ?_⟩
    · rw [Account.find?_kept]
      split
      · rfl
      · rename_i staying
        have listed := (Account.archive_perm _ _ sound).mem_iff.mp member
        rcases mem_append.mp listed with moved | old
        · exact absurd (mem_map_of_mem moved) staying
        · exact sound.apart row old
    · rw [Account.archivedUsage_moved sound]
      by_cases none_moved : before.archivable limit = []
      · rw [none_moved]
        exact sound.totalled
      · have filled : (before.moved (before.archivable limit) (before.archivedUsage +
            ((before.archivable limit).map fun row => row.actual.val).sum)).archive.rows ≠ [] := by
          intro empty
          have perm := Account.archive_perm limit (before.archivedUsage +
            ((before.archivable limit).map fun row => row.actual.val).sum) sound
          rw [empty] at perm
          exact none_moved (append_eq_nil_iff.mp perm.symm.eq_nil).1
        rw [if_neg filled]
        exact if_neg none_moved
    · rw [Account.archivedUsage_moved sound]
      exact short

/-- What `inspect` reports is the same after settled requests have moved. -/
theorem Account.inspect_moved {limit total : ℕ} (sound : before.Sound)
    (kept : (before.moved (before.archivable limit) total).Sound) :
    (before.moved (before.archivable limit) total).inspect = before.inspect := by
  have spent : (before.moved (before.archivable limit) total).archivedUsage +
      (before.moved (before.archivable limit) total).liveUsage =
      before.archivedUsage + before.liveUsage := by
    rw [Account.archivedUsage_moved sound, before.liveUsage_moved limit total]
    omega
  unfold Account.liveUsage at spent
  have reserved := before.weight_moved limit total
    (fun row => (Totals.add ⟨0, 0, 0, 0⟩ row).reserved) fun row archived shown => by
      rw [ReservationRow.archived?_eq_some.mp shown]
      rfl
  have unknown := before.weight_moved limit total
    (fun row => (Totals.add ⟨0, 0, 0, 0⟩ row).unknown) fun row archived shown => by
      rw [ReservationRow.archived?_eq_some.mp shown]
      rfl
  have pending := before.weight_moved limit total
    (fun row => (Totals.add ⟨0, 0, 0, 0⟩ row).pending) fun row archived shown => by
      rw [ReservationRow.archived?_eq_some.mp shown]
      rfl
  unfold Account.inspect
  rw [sound.archivedSpent, kept.archivedSpent, sound.readReservations, kept.readReservations]
  dsimp only
  rw [if_neg (not_lt_of_ge sound.bounded), if_neg (not_lt_of_ge kept.bounded)]
  rw [totals_foldl, totals_foldl]
  dsimp only
  rw [reserved, unknown, pending]
  have imported : (before.moved (before.archivable limit) total).importedSpent =
      before.importedSpent := rfl
  rw [imported, Nat.add_assoc, spent, Nat.add_assoc]
  rfl

theorem Account.Sound.inspected (sound : before.Sound) :
    ∃ inspection, before.inspect = .ok inspection ∧ inspection.spent = before.lifetimeUsage := by
  unfold Account.inspect
  rw [sound.archivedSpent, sound.readReservations]
  dsimp only
  rw [if_neg (not_lt_of_ge sound.bounded)]
  refine ⟨_, rfl, ?_⟩
  rw [totals_foldl]
  rfl

end Moves

/-! ### Histories -/

structure LogEntry where
  scope : Scope
  call : BudgetCall
  answer : Except BudgetFailure BudgetAnswer
  observed : List Timestamp

/-- The ledger, with all calls that were made. -/
structure BudgetHistory where
  ledger : Table Account.scope
  log : List LogEntry

namespace BudgetHistory

def start : BudgetHistory := ⟨∅, []⟩

def turn (arithmetic : FloatArithmetic) (history : BudgetHistory) (scope : Scope)
    (call : BudgetCall) (clock : Clock) : Turn :=
  call.turn arithmetic scope clock (history.ledger.find? scope)

def perform (arithmetic : FloatArithmetic) (history : BudgetHistory) (scope : Scope)
    (call : BudgetCall) (clock : Clock) : BudgetHistory where
  ledger :=
    match (history.turn arithmetic scope call clock).account with
    | some account => history.ledger.put account
    | none => history.ledger
  log := history.log ++ [⟨scope, call, (history.turn arithmetic scope call clock).answer,
    (history.turn arithmetic scope call clock).observed⟩]

/-- All samples of the clock that calls for a scope have taken. -/
def observed (history : BudgetHistory) (scope : Scope) : List Timestamp :=
  (history.log.filter fun entry => entry.scope = scope).flatMap LogEntry.observed

end BudgetHistory

/-- The calls of any number of processes, one after the other. -/
def budgetSystem (arithmetic : FloatArithmetic) : TransitionSystem BudgetHistory where
  initial history := history = .start
  step history next := ∃ scope call clock, next = history.perform arithmetic scope call clock

/-- The call has authorised spending for a request. -/
def LogEntry.authorizes (entry : LogEntry) (scope : Scope) (requestId : BoundedName) : Bool :=
  decide (entry.scope = scope) &&
    match entry.answer with
    | .ok (.receipt receipt) => receipt.spendAuthorized && decide (receipt.requestId = requestId)
    | _ => false

theorem LogEntry.authorizes_iff {entry : LogEntry} {scope : Scope} :
    entry.authorizes scope requestId = true ↔ entry.scope = scope ∧
      ∃ receipt, entry.answer = .ok (.receipt receipt) ∧ receipt.spendAuthorized = true ∧
        receipt.requestId = requestId := by
  unfold authorizes
  rw [Bool.and_eq_true, decide_eq_true_eq]
  refine and_congr_right fun _ => ?_
  cases entry.answer with
  | error failure => simp
  | ok answer => cases answer <;> simp

/-- What the ledger keeps of the calls that were made. -/
structure BudgetHistory.Lawful (history : BudgetHistory) : Prop where
  sound : ∀ account ∈ history.ledger, account.Sound
  observed : ∀ entry ∈ history.log, ∀ sample ∈ entry.observed,
    ∃ account, history.ledger.find? entry.scope = some account ∧
      (account.deadline.val ≤ sample → sample ≤ account.observedAt)
  authorized : ∀ entry ∈ history.log, ∀ scope requestId, entry.authorizes scope requestId = true →
      ∃ account, history.ledger.find? scope = some account ∧
        (account.recorded? requestId).isSome
  once : ∀ scope requestId, history.log.countP (fun entry => entry.authorizes scope requestId) ≤ 1

section Histories

variable {arithmetic : FloatArithmetic} {history : BudgetHistory} {scope : Scope}
  {call : BudgetCall} {clock : Clock}

variable (arithmetic scope call clock) in
theorem BudgetHistory.Lawful.follows (lawful : history.Lawful) :
    Turn.Follows scope (history.ledger.find? scope) (history.turn arithmetic scope call clock) :=
  call.follows arithmetic fun _ found => lawful.sound _ (Table.mem_of_find? found)

variable (arithmetic scope call clock) in
theorem BudgetHistory.Lawful.find?_perform (lawful : history.Lawful) (other : Scope) :
    (history.perform arithmetic scope call clock).ledger.find? other =
      if other = scope then (history.turn arithmetic scope call clock).account
      else history.ledger.find? other := by
  have follows := lawful.follows arithmetic scope call clock
  unfold perform
  dsimp only
  generalize history.turn arithmetic scope call clock = turn at follows ⊢
  generalize found : history.ledger.find? scope = stored at follows
  cases follows with
  | absent denied =>
    dsimp only [Turn.still]
    split
    · rename_i same
      rw [same, found]
    · rfl
  | opened own sound seen =>
    dsimp only
    rw [Table.find?_put, own]
  | moved moves granted =>
    dsimp only
    rw [Table.find?_put, moves.grows.scope, Table.key_of_find? found]

variable (arithmetic scope call clock) in
theorem BudgetHistory.Lawful.grows (lawful : history.Lawful) {other : Scope} {account : Account}
    (found : history.ledger.find? other = some account) :
    ∃ next, (history.perform arithmetic scope call clock).ledger.find? other = some next ∧
      account.Grows next := by
  rw [lawful.find?_perform]
  split
  · rename_i same
    subst same
    have follows := lawful.follows arithmetic other call clock
    rw [found] at follows
    generalize history.turn arithmetic other call clock = turn at follows ⊢
    cases follows with
    | moved moves granted => exact ⟨_, rfl, moves.grows⟩
  · exact ⟨account, found, .refl account⟩

theorem BudgetHistory.Lawful.granted (lawful : history.Lawful) {receipt : Receipt}
    (answered : (history.turn arithmetic scope call clock).answer = .ok (.receipt receipt))
    (allowed : receipt.spendAuthorized = true) :
    ∃ account after now, history.ledger.find? scope = some account ∧
      (history.turn arithmetic scope call clock).account = some after ∧
      account.Grants after (history.turn arithmetic scope call clock).observed
        receipt.requestId receipt.reserved now := by
  have follows := lawful.follows arithmetic scope call clock
  generalize history.turn arithmetic scope call clock = turn at follows answered ⊢
  generalize history.ledger.find? scope = stored at follows ⊢
  cases follows with
  | absent denied =>
    rw [denied receipt answered] at allowed
    cases allowed
  | opened own sound seen => cases answered
  | moved moves granted =>
    obtain ⟨now, grants⟩ := granted receipt answered allowed
    exact ⟨_, _, now, rfl, rfl, grants⟩

theorem BudgetHistory.Lawful.perform (lawful : history.Lawful) :
    (history.perform arithmetic scope call clock).Lawful := by
  have follows := lawful.follows arithmetic scope call clock
  have found := lawful.find?_perform arithmetic scope call clock
  refine ⟨fun account member => ?_, fun entry member sample seen => ?_,
    fun entry member other requestId allowed => ?_, fun other requestId => ?_⟩
  · have stored := Table.find?_key member
    rw [found] at stored
    split at stored
    · generalize history.turn arithmetic scope call clock = turn at follows stored
      generalize before : history.ledger.find? scope = old at follows
      cases follows with
      | absent denied => cases stored
      | opened own sound observed =>
        cases stored
        exact sound
      | moved moves granted =>
        cases stored
        exact moves.sound (lawful.sound _ (Table.mem_of_find? before))
    · exact lawful.sound account (Table.mem_of_find? stored)
  · rcases mem_append.mp member with old | new
    · obtain ⟨account, stored, kept⟩ := lawful.observed entry old sample seen
      obtain ⟨next, later, grown⟩ := lawful.grows arithmetic scope call clock stored
      refine ⟨next, later, fun reached => ?_⟩
      rw [grown.deadline] at reached
      exact (kept reached).trans grown.later
    · cases mem_singleton.mp new
      rw [found, if_pos rfl]
      dsimp only at seen
      generalize history.turn arithmetic scope call clock = turn at follows seen ⊢
      generalize history.ledger.find? scope = old at follows
      cases follows with
      | absent denied => cases seen
      | opened own sound observed =>
        cases mem_singleton.mp seen
        exact ⟨_, rfl, fun _ => le_of_eq observed.symm⟩
      | moved moves granted =>
        refine ⟨_, rfl, fun reached => moves.observes sample seen ?_⟩
        rwa [moves.grows.deadline] at reached
  · rcases mem_append.mp member with old | new
    · obtain ⟨account, stored, recorded⟩ := lawful.authorized entry old other requestId allowed
      obtain ⟨next, later, grown⟩ := lawful.grows arithmetic scope call clock stored
      obtain ⟨⟨amount, state⟩, shown⟩ := isSome_iff_exists.mp recorded
      obtain ⟨now, still, -⟩ := grown.recorded requestId amount state shown
      exact ⟨next, later, isSome_iff_exists.mpr ⟨_, still⟩⟩
    · cases mem_singleton.mp new
      obtain ⟨own, receipt, answered, permitted, rfl⟩ := LogEntry.authorizes_iff.mp allowed
      obtain ⟨account, after, now, -, stored, grants⟩ := lawful.granted answered permitted
      refine ⟨after, ?_, ?_⟩
      · rw [found, if_pos own.symm, stored]
      · rw [grants.stored]
        exact isSome_iff_exists.mpr ⟨_, Account.recorded?_put_same⟩
  · unfold BudgetHistory.perform
    rw [countP_append, countP_singleton]
    split
    · rename_i allowed
      obtain ⟨own, receipt, answered, permitted, rfl⟩ := LogEntry.authorizes_iff.mp allowed
      obtain ⟨account, after, now, stored, -, grants⟩ := lawful.granted answered permitted
      have never : history.log.countP
          (fun entry => entry.authorizes other receipt.requestId) = 0 := by
        rw [countP_eq_zero]
        intro entry member before
        obtain ⟨earlier, shown, recorded⟩ :=
          lawful.authorized entry member other receipt.requestId before
        rw [← own, stored] at shown
        cases shown
        rw [grants.unrecorded] at recorded
        cases recorded
      rw [never]
    · exact lawful.once other requestId

theorem BudgetHistory.lawful_start : BudgetHistory.start.Lawful :=
  ⟨nofun, nofun, nofun, fun _ _ => Nat.zero_le 1⟩

theorem BudgetHistory.lawful (reachable : (budgetSystem arithmetic).Reachable history) :
    history.Lawful := by
  refine reachable.invariant BudgetHistory.Lawful ?_ ?_
  · rintro state rfl
    exact lawful_start
  · rintro state next - lawful ⟨scope, call, clock, rfl⟩
    exact lawful.perform

/-- No sample of the clock that was taken before a call authorises spending, or by it, has reached
the deadline. -/
theorem BudgetHistory.Lawful.early (lawful : history.Lawful) {account after : Account}
    {observed : List Timestamp} {now : Timestamp}
    (stored : history.ledger.find? scope = some account)
    (grants : account.Grants after observed requestId amount now) :
    ∀ sample ∈ history.observed scope ++ observed, sample < account.deadline.val := by
  intro sample member
  rcases mem_append.mp member with old | new
  · obtain ⟨entry, among, seen⟩ := mem_flatMap.mp old
    obtain ⟨logged, own⟩ := mem_filter.mp among
    obtain ⟨found, shown, kept⟩ := lawful.observed entry logged sample seen
    rw [of_decide_eq_true own, stored] at shown
    cases shown
    refine lt_of_not_ge fun reached => ?_
    have passed := ((kept reached).trans grants.later).trans_lt grants.early
    exact not_le_of_gt passed reached
  · exact (grants.seen sample new).trans_lt grants.early

end Histories

/-! ### The law of the ledger -/

/-- A call that asks again about a request that is recorded. -/
def BudgetCall.Replays (account : Account) : BudgetCall → Prop
  | reserve requestId _ | settle requestId _ | reconcile requestId _ =>
    (account.recorded? requestId).isSome
  | _ => False

theorem BudgetCall.Replays.answer {arithmetic : FloatArithmetic} {scope : Scope} {clock : Clock}
    {call : BudgetCall} {before after : Account} (replays : call.Replays before)
    (same : after.recorded? = before.recorded?) (own : after.scope = before.scope) :
    (call.turn arithmetic scope clock (some after)).answer =
      (call.turn arithmetic scope clock (some before)).answer := by
  have settled : ∀ requestId actual reconciled, (before.recorded? requestId).isSome →
      (settleRequest requestId actual reconciled (some after)).answer =
        (settleRequest requestId actual reconciled (some before)).answer := by
    intro requestId actual reconciled recorded
    obtain ⟨⟨amount, state⟩, found⟩ := isSome_iff_exists.mp recorded
    unfold settleRequest
    dsimp only
    rw [same, found, own]
    dsimp only
    split
    · rfl
    · split <;> rfl
  cases call with
  | reserve requestId amount =>
    obtain ⟨⟨reserved, state⟩, found⟩ := isSome_iff_exists.mp replays
    show (Application.reserve requestId amount clock (some after)).answer =
      (Application.reserve requestId amount clock (some before)).answer
    unfold Application.reserve
    dsimp only
    rw [same, found, own]
    dsimp only
    split <;> rfl
  | settle requestId actual => exact settled requestId actual false replays
  | reconcile requestId actual => exact settled requestId (some actual) true replays
  | create | importLegacy | archiveSettled | inspect => exact replays.elim

/-- What `archive_settled` leaves. -/
theorem archiveSettled_account {account : Account} (sound : account.Sound) (limit : ℕ) :
    ∃ after, (archiveSettled limit (some account)).account = some after ∧ after.Sound ∧
      after.inspect = account.inspect ∧ after.recorded? = account.recorded? ∧
      after.scope = account.scope := by
  have follows : Turn.Follows account.scope (some account) (archiveSettled limit (some account)) :=
    archiveSettled_follows fun before found => by
      cases found
      exact sound
  unfold archiveSettled at follows ⊢
  dsimp only at follows ⊢
  rw [sound.archivedSpent] at follows ⊢
  dsimp only at follows ⊢
  have unchanged : ∃ after, some account = some after ∧ after.Sound ∧
      after.inspect = account.inspect ∧ after.recorded? = account.recorded? ∧
      after.scope = account.scope := ⟨account, rfl, sound, rfl, rfl, rfl⟩
  split
  · split
    · exact unchanged
    · rename_i short
      split
      · exact unchanged
      · have moves : account.Moves _ [] := .archived (Nat.le_of_not_lt short)
        have kept := moves.sound sound
        exact ⟨_, rfl, kept, Account.inspect_moved sound kept,
          funext fun requestId => Account.recorded?_moved requestId, rfl⟩
  · exact unchanged

/-- In every history of calls spending is authorised at most once for a request, within the
allowance and before the deadline; a settled request stays as it is, and archiving changes no
answer. -/
theorem budget_ledger_lawful (arithmetic : FloatArithmetic) {history : BudgetHistory}
    (reachable : (budgetSystem arithmetic).Reachable history) :
    (∀ scope requestId,
      history.log.countP (fun entry => entry.authorizes scope requestId) ≤ 1) ∧
    (∀ scope call clock receipt,
      (history.turn arithmetic scope call clock).answer = .ok (.receipt receipt) →
      receipt.spendAuthorized = true →
      ∃ account, history.ledger.find? scope = some account ∧
        account.recorded? receipt.requestId = none ∧
        (∀ row ∈ account.reservations, row.isSettled) ∧
        account.lifetimeUsage + receipt.reserved.val ≤ account.allowance.val ∧
        ∀ sample ∈ history.observed scope ++ (history.turn arithmetic scope call clock).observed,
          sample < account.deadline.val) ∧
    (∀ later, (budgetSystem arithmetic).Run history later → ∀ scope account,
      history.ledger.find? scope = some account →
      ∃ next, later.ledger.find? scope = some next ∧ ∀ requestId amount actual,
        account.recorded? requestId = some (amount, .settled actual) →
        next.recorded? requestId = some (amount, .settled actual)) ∧
    ∀ scope limit account, history.ledger.find? scope = some account →
      ∃ after, (archiveSettled limit (some account)).account = some after ∧
        (∃ inspection, account.inspect = .ok inspection ∧ after.inspect = .ok inspection) ∧
        ∀ call clock, BudgetCall.Replays account call →
          (call.turn arithmetic scope clock (some after)).answer =
            (call.turn arithmetic scope clock (some account)).answer := by
  have lawful := BudgetHistory.lawful reachable
  refine ⟨lawful.once, fun scope call clock receipt answered allowed => ?_,
    fun later run scope account found => ?_, fun scope limit account found => ?_⟩
  · obtain ⟨account, after, now, stored, -, grants⟩ := lawful.granted answered allowed
    obtain ⟨closed, fits, -⟩ := Account.admit_eq_ok
      (lawful.sound account (Table.mem_of_find? stored)) grants.admitted
    exact ⟨account, stored, grants.unrecorded, closed, fits, lawful.early stored grants⟩
  · have grown : ∃ next, later.ledger.find? scope = some next ∧ account.Grows next := by
      refine reachable.keeps (fun state => ∃ next, state.ledger.find? scope = some next ∧
        account.Grows next) ?_ ⟨account, found, .refl account⟩ run
      rintro state _ before ⟨middle, shown, grows⟩ ⟨other, call, clock, rfl⟩
      obtain ⟨next, stored, more⟩ := (BudgetHistory.lawful before).grows
        arithmetic other call clock shown
      exact ⟨next, stored, grows.trans more⟩
    obtain ⟨next, stored, grows⟩ := grown
    refine ⟨next, stored, fun requestId amount actual recorded => ?_⟩
    obtain ⟨now, shown, kept⟩ := grows.recorded requestId amount _ recorded
    rw [shown, kept rfl]
  · have sound := lawful.sound account (Table.mem_of_find? found)
    obtain ⟨after, stored, -, inspected, recorded, own⟩ := archiveSettled_account sound limit
    obtain ⟨inspection, shown, -⟩ := sound.inspected
    exact ⟨after, stored, ⟨inspection, shown, inspected.trans shown⟩,
      fun call clock replays => replays.answer recorded own⟩

def sampleName : BoundedName := ⟨"sample", by decide, by decide⟩

def sampleScope : Scope := ⟨sampleName, sampleName, sampleName⟩

def sampleSpending : BudgetHistory :=
  ((BudgetHistory.start.perform .exact sampleScope
      (.create ⟨10, by decide⟩ ⟨(100 : ℕ), by decide⟩) fun _ => some 1).perform .exact sampleScope
    (.reserve sampleName ⟨7, by decide⟩) fun sample => some (sample + (2 : ℕ)))

theorem sampleSpending_reachable : (budgetSystem .exact).Reachable sampleSpending := by
  have opened : (budgetSystem .exact).Reachable (BudgetHistory.start.perform .exact sampleScope
      (.create ⟨10, by decide⟩ ⟨100, by decide⟩) fun _ => some 1) :=
    TransitionSystem.Reachable.next (.start rfl) ⟨_, _, _, rfl⟩
  exact opened.next ⟨_, _, _, rfl⟩

theorem budget_ledger_lawful_sample :
    sampleSpending.log.countP (fun entry => entry.authorizes sampleScope sampleName) = 1 ∧
    ∀ scope requestId,
      sampleSpending.log.countP (fun entry => entry.authorizes scope requestId) ≤ 1 :=
  ⟨by decide +kernel, (budget_ledger_lawful .exact sampleSpending_reachable).1⟩

end DispatcherSdk.Application
