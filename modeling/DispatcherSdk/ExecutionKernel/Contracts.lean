/-
This file models the values the kernel stores and compares as JSON, and the records it
exchanges with its callers, with the checks their constructors make.

A text is modelled as the sequence of its lexemes, with a number or a string as one lexeme.
Times are modelled as the rationals they denote; the rounding of sums is a parameter of the
model. Checks that do not depend on stored data are fields of the records, so a command that
the constructor would refuse cannot be written down here.
-/

import Mathlib.Data.List.Sort
import Mathlib.Data.NNRat.Defs
import Mathlib.Data.Rat.Defs
import Mathlib.Tactic.NormNum

namespace DispatcherSdk.ExecutionKernel

/-- A finite non-negative number of seconds, as `_number(value, name, minimum=0.0)` returns it. -/
abbrev Timestamp := ℚ≥0

/-! ### Strict JSON values -/

/-- The values `_json_value` accepts. An integer and a float are different values, and so are the
two zeros. -/
inductive Json where
  | null
  | bool (value : Bool)
  | int (value : ℤ)
  | float (value : ℚ)
  | negativeZero
  | string (text : String)
  | array (items : List Json)
  | object (fields : List (String × Json))

namespace Json

instance : Inhabited Json := ⟨null⟩

inductive Lexeme where
  | null
  | bool (value : Bool)
  | int (value : ℤ)
  | float (value : ℚ)
  | negativeZero
  | string (text : String)
  | openArray
  | closeArray
  | openObject
  | closeObject
  | comma
  | colon
  deriving DecidableEq

abbrev Text := List Lexeme

def separated : List Text → Text
  | [] => []
  | [last] => last
  | first :: rest => first ++ Lexeme.comma :: separated rest

mutual

/-- `encode_json`: the text with sorted keys and without white space. -/
def encode : Json → Text
  | null => [.null]
  | bool value => [.bool value]
  | int value => [.int value]
  | float value => [.float value]
  | negativeZero => [.negativeZero]
  | string text => [.string text]
  | array items => .openArray :: separated (encodeItems items) ++ [.closeArray]
  | object fields =>
    let members := (encodeFields fields).insertionSort fun left right => left.1 ≤ right.1
    .openObject ::
      separated (members.map fun member => .string member.1 :: .colon :: member.2) ++ [.closeObject]

def encodeItems : List Json → List Text
  | [] => []
  | item :: rest => encode item :: encodeItems rest

def encodeFields : List (String × Json) → List (String × Text)
  | [] => []
  | (name, value) :: rest => (name, encode value) :: encodeFields rest

end

/-- `value.get(name)` of a JSON object. -/
def get? (fields : List (String × Json)) (name : String) : Option Json :=
  (fields.find? fun field => field.1 = name).map Prod.snd

/-! ### Values the kernel writes itself -/

def ofOption {Value : Type} (write : Value → Json) : Option Value → Json
  | none => null
  | some value => write value

def ofTimestamp (value : Timestamp) : Json := float value

def ofNat (value : ℕ) : Json := int value

/-- Keys are sorted when a value is written, so the order in which they were set is lost. -/
example : encode (.object [("b", .int 1), ("a", .float 1)]) =
    encode (.object [("a", .float 1), ("b", .int 1)]) := by decide +kernel

/-- An integer and the float it equals are written differently. -/
example : encode (.int 1) ≠ encode (.float 1) := by decide

end Json

/-! ### Identifiers -/

/-- The characters that `str.strip` removes. -/
def isPythonSpace (character : Char) : Bool :=
  let code := character.toNat
  (9 ≤ code && code ≤ 13) || (28 ≤ code && code ≤ 32) || code == 133 || code == 160 ||
    code == 5760 || (8192 ≤ code && code ≤ 8202) || code == 8232 || code == 8233 ||
    code == 8239 || code == 8287 || code == 12288

/-- `not value.strip()`: nothing is left of the text once white space is stripped. -/
def blank (text : String) : Bool := text.toList.all isPythonSpace

/-- A string that `_identifier` accepts. -/
structure Identifier where
  text : String
  filled : blank text = false
  deriving DecidableEq

namespace Identifier

@[ext] theorem ext {left right : Identifier} (same : left.text = right.text) : left = right := by
  cases left
  cases right
  congr

/-- `_identifier`: accept a string unless it is blank. -/
def ofText (text : String) : Option Identifier :=
  if filled : blank text = false then some ⟨text, filled⟩ else none

@[simp] theorem ofText_text (name : Identifier) : ofText name.text = some name := by
  unfold ofText
  rw [dif_pos name.filled]

/-- `ORDER BY` on an identifier compares code points, which is the order of the UTF-8 bytes the
database compares. -/
def precedes (left right : Identifier) : Bool := decide (left.text ≤ right.text)

def toJson (name : Identifier) : Json := .string name.text

end Identifier

/-- `EXECUTION_STATES`. -/
inductive ExecutionState where
  | queued
  | leased
  | running
  | succeeded
  | failed
  | timedOut
  | cancelled
  | dead
  | recoveryRequired
  deriving DecidableEq

namespace ExecutionState

/-- The text under which a state is stored. -/
def text : ExecutionState → String
  | queued => "queued"
  | leased => "leased"
  | running => "running"
  | succeeded => "succeeded"
  | failed => "failed"
  | timedOut => "timed_out"
  | cancelled => "cancelled"
  | dead => "dead"
  | recoveryRequired => "recovery_required"

def toJson (state : ExecutionState) : Json := .string state.text

/-- `TERMINAL_STATES`. -/
def terminal : ExecutionState → Bool
  | succeeded | failed | timedOut | cancelled | dead => true
  | queued | leased | running | recoveryRequired => false

def held : ExecutionState → Bool
  | leased | running => true
  | _ => false

/-- `TRANSITION_MATRIX`. -/
def transitions : ExecutionState → List ExecutionState
  | queued => [leased, cancelled, dead, recoveryRequired]
  | leased => [running, queued, cancelled, dead, recoveryRequired]
  | running => [queued, succeeded, failed, timedOut, cancelled, dead, recoveryRequired]
  | recoveryRequired => [queued, cancelled]
  | succeeded | failed | timedOut | cancelled | dead => []

def canTransition (current requested : ExecutionState) : Bool :=
  (transitions current).contains requested

theorem terminal_absorbing {current requested : ExecutionState}
    (allowed : canTransition current requested = true) : current.terminal = false := by
  cases current <;> first | rfl | simp [canTransition, transitions] at allowed

theorem terminal_not_held {state : ExecutionState} (ended : state.terminal = true) :
    state.held = false := by
  cases state <;> simp_all [terminal, held]

end ExecutionState

/-- The events `reduce_state` is asked about, with the state each requests (`EVENT_TARGETS`). -/
inductive TransitionEvent where
  | lease
  | start
  | retry
  | leaseExpired
  | requireRecovery
  | recoveryResolved
  | status (requested : ExecutionState)

namespace TransitionEvent

def target : TransitionEvent → ExecutionState
  | lease => .leased
  | start => .running
  | retry => .queued
  | leaseExpired => .queued
  | requireRecovery => .recoveryRequired
  | recoveryResolved => .queued
  | status requested => requested

/-- The name under which the event appears in the reason of a refusal. -/
def text : TransitionEvent → String
  | lease => "lease"
  | start => "start"
  | retry => "retry"
  | leaseExpired => "lease_expired"
  | requireRecovery => "require_recovery"
  | recoveryResolved => "recovery_resolved"
  | status requested => requested.text

end TransitionEvent

inductive EffectState where
  | prepared
  | performing
  | committed
  | indeterminate
  | notApplied
  deriving DecidableEq

namespace EffectState

def text : EffectState → String
  | prepared => "prepared"
  | performing => "performing"
  | committed => "committed"
  | indeterminate => "indeterminate"
  | notApplied => "not_applied"

/-- `UNFINISHED_EFFECT_STATES`. -/
def unfinished : EffectState → Bool
  | prepared | performing | indeterminate => true
  | committed | notApplied => false

/-- The states in which the outcome is not yet uncertain but authority is still needed. -/
def open_ : EffectState → Bool
  | prepared | performing => true
  | _ => false

end EffectState

/-- The answers an uncertain effect may be resolved with. -/
inductive RecoveryDecision where
  | applied
  | notApplied
  deriving DecidableEq

def RecoveryDecision.text : RecoveryDecision → String
  | applied => "applied"
  | notApplied => "not_applied"

/-- What becomes of an execution once its last uncertain effect is resolved. -/
inductive RecoveryTarget where
  | queued
  | cancelled
  deriving DecidableEq

def RecoveryTarget.text : RecoveryTarget → String
  | queued => "queued"
  | cancelled => "cancelled"

/-! ### Errors -/

/-- The exception classes the kernel raises. -/
inductive ErrorKind where
  | contractValidation
  | value
  | type
  | key
  | runtime
  | overflow
  | timeout
  | storage
  | executionNotFound
  | idempotencyConflict
  | resultConflict
  | casConflict
  | storageIsolation
  | budgetScanContinuation
  | staleFence
  | invalidStateTransition
  | effectConflict
  | effectClaimConflict
  | effectIndeterminate
  | effectRecoveryRequired
  | budgetClockUnknown
  | lifecycleReceiptExpired
  deriving DecidableEq

/-- An exception: its class, its message, its context, and the mark that tells a claim scan that
another candidate may still be admitted. -/
structure KernelError where
  kind : ErrorKind
  message : String
  context : List (String × Json) := []
  claimAuthorityFailure : Bool := false

namespace KernelError

def contractValidation (message : String) : KernelError := { kind := .contractValidation, message }
def value (message : String) : KernelError := { kind := .value, message }
def type (message : String) : KernelError := { kind := .type, message }
def key (message : String) : KernelError := { kind := .key, message }
def runtime (message : String) : KernelError := { kind := .runtime, message }
def overflow (message : String) : KernelError := { kind := .overflow, message }
def idempotencyConflict (message : String) : KernelError := { kind := .idempotencyConflict, message }
def resultConflict (message : String) : KernelError := { kind := .resultConflict, message }
def casConflict (message : String) : KernelError := { kind := .casConflict, message }
def storageIsolation (message : String) : KernelError := { kind := .storageIsolation, message }
def effectConflict (message : String) : KernelError := { kind := .effectConflict, message }
def effectClaimConflict (message : String) : KernelError := { kind := .effectClaimConflict, message }
def effectIndeterminate (message : String) : KernelError := { kind := .effectIndeterminate, message }
def budgetClockUnknown (message : String) : KernelError := { kind := .budgetClockUnknown, message }

def lifecycleReceiptExpired (message : String) : KernelError :=
  { kind := .lifecycleReceiptExpired, message }

def executionNotFound (name : Identifier) : KernelError :=
  { kind := .executionNotFound, message := name.text }

def effectRecoveryRequired (name : Identifier) : KernelError :=
  { kind := .effectRecoveryRequired, message := "effect requires explicit recovery: " ++ name.text }

def staleFence (message : String) (context : List (String × Json) := []) : KernelError :=
  { kind := .staleFence, message, context }

end KernelError

/-- Continue only if a condition holds; the guard of a constructor check. -/
def ensure (condition : Prop) [Decidable condition] (failure : KernelError) :
    Except KernelError Unit :=
  if condition then .ok () else .error failure

@[simp] theorem ensure_bind_eq_ok {condition : Prop} [Decidable condition]
    {failure : KernelError} {Value : Type} {rest : Unit → Except KernelError Value}
    {value : Value} :
    (ensure condition failure >>= rest) = .ok value ↔ condition ∧ rest () = .ok value := by
  unfold ensure
  split
  · rename_i holds
    exact ⟨fun equal => ⟨holds, equal⟩, fun both => both.2⟩
  · rename_i fails
    refine ⟨fun equal => ?_, fun both => absurd both.1 fails⟩
    cases equal

@[simp] theorem ensure_eq_ok {condition : Prop} [Decidable condition] {failure : KernelError}
    {value : Unit} : ensure condition failure = .ok value ↔ condition := by
  unfold ensure
  split
  · rename_i holds
    simp [holds]
  · rename_i fails
    refine ⟨fun equal => ?_, fun holds => absurd holds fails⟩
    cases equal

/-- Unpack an optional value, or refuse when there is none. -/
def ensureSome {Value : Type} (value : Option Value) (failure : KernelError) :
    Except KernelError Value :=
  match value with
  | some found => .ok found
  | none => .error failure

theorem ensureSome_eq_ok {Value : Type} {value : Option Value} {failure : KernelError}
    {found : Value} : ensureSome value failure = .ok found ↔ value = some found := by
  unfold ensureSome
  split <;> simp

/-! ### Floating-point arithmetic

The kernel adds durations to times and computes an exponential back-off. Both round, and both can
leave the finite range; neither the direction nor the amount of the rounding is relied on, except
where the code compares the outcome with its operands. -/

/-- The floating-point unit, as far as the kernel uses it. `nearest` rounds an exact value,
`nextAfter` is the next larger number and `power` is the library function; `none` is a value
beyond the finite range. `width` is the number of characters of the shortest text of a number. -/
structure FloatArithmetic where
  nearest : Timestamp → Option Timestamp
  nextAfter : Timestamp → Option Timestamp
  power : Timestamp → ℕ → Option Timestamp
  width : ℚ → ℕ

namespace FloatArithmetic

def add (arithmetic : FloatArithmetic) (left right : Timestamp) : Option Timestamp :=
  arithmetic.nearest (left + right)

def multiply (arithmetic : FloatArithmetic) (left right : Timestamp) : Option Timestamp :=
  arithmetic.nearest (left * right)

/-- Arithmetic that never rounds and never overflows. -/
def exact : FloatArithmetic where
  nearest value := some value
  nextAfter value := some value
  power base exponent := some (base ^ exponent)
  width _ := 1

end FloatArithmetic

/-- The number of bytes of a lexeme in a text that is not restricted to ASCII. -/
def Json.Lexeme.bytes (arithmetic : FloatArithmetic) : Json.Lexeme → ℕ
  | .null => 4
  | .bool value => if value then 4 else 5
  | .int value => (toString value).length
  | .float value => arithmetic.width value
  | .negativeZero => 4
  | .string text => 2 + (text.toList.map escaped).sum
  | .openArray | .closeArray | .openObject | .closeObject | .comma | .colon => 1
where
  /-- The number of bytes of a character of a string literal, with its escape. -/
  escaped (character : Char) : ℕ :=
    let code := character.toNat
    if code = 34 ∨ code = 92 then 2
    else if code = 8 ∨ code = 9 ∨ code = 10 ∨ code = 12 ∨ code = 13 then 2
    else if code < 32 then 6
    else character.utf8Size

def Json.textBytes (arithmetic : FloatArithmetic) (text : Json.Text) : ℕ :=
  (text.map (Json.Lexeme.bytes arithmetic)).sum

/-- `len(encode_json(value).encode("utf-8"))`. -/
def Json.bytes (arithmetic : FloatArithmetic) (value : Json) : ℕ :=
  Json.textBytes arithmetic value.encode

/-! ### Commands -/

def schemaVersion : ℕ := 2

structure RetryPolicy where
  maxAttempts : ℕ
  initialBackoffSeconds : Timestamp
  backoffMultiplier : Timestamp
  maxBackoffSeconds : Timestamp
  retryTimeouts : Bool
  attemptsPositive : 1 ≤ maxAttempts
  multiplierAtLeastOne : 1 ≤ backoffMultiplier
  backoffOrdered : initialBackoffSeconds ≤ maxBackoffSeconds

namespace RetryPolicy

/-- `delay_for_attempt`; the attempt number is positive. -/
def delayForAttempt (arithmetic : FloatArithmetic) (policy : RetryPolicy) (attempt : ℕ) :
    Timestamp :=
  if policy.initialBackoffSeconds = 0 ∨ policy.backoffMultiplier = 1 then
    min policy.maxBackoffSeconds policy.initialBackoffSeconds
  else
    match arithmetic.power policy.backoffMultiplier (attempt - 1) with
    | none => policy.maxBackoffSeconds
    | some factor =>
      match arithmetic.multiply policy.initialBackoffSeconds factor with
      | none => policy.maxBackoffSeconds
      | some delay => min policy.maxBackoffSeconds delay

def toDict (policy : RetryPolicy) : Json := .object
  [("max_attempts", .ofNat policy.maxAttempts),
    ("initial_backoff_seconds", .ofTimestamp policy.initialBackoffSeconds),
    ("backoff_multiplier", .ofTimestamp policy.backoffMultiplier),
    ("max_backoff_seconds", .ofTimestamp policy.maxBackoffSeconds),
    ("retry_timeouts", .bool policy.retryTimeouts),
    ("schema_version", .ofNat schemaVersion)]

end RetryPolicy

/-- `ExecutionCommandV2`. -/
structure ExecutionCommand where
  executionId : Identifier
  idempotencyKey : Identifier
  registryRevision : Identifier
  correlationId : Identifier
  causationId : Option Identifier
  handlerId : Identifier
  handlerContractVersion : ℕ
  retryPolicy : RetryPolicy
  timeoutSeconds : Timestamp
  payload : Json
  contractVersionPositive : 1 ≤ handlerContractVersion
  timeoutAtLeastMillisecond : 1 / 1000 ≤ timeoutSeconds

def ExecutionCommand.toDict (command : ExecutionCommand) : Json := .object
  [("execution_id", command.executionId.toJson), ("idempotency_key", command.idempotencyKey.toJson),
    ("registry_revision", command.registryRevision.toJson),
    ("correlation_id", command.correlationId.toJson),
    ("causation_id", .ofOption Identifier.toJson command.causationId),
    ("handler_id", command.handlerId.toJson),
    ("handler_contract_version", .ofNat command.handlerContractVersion),
    ("retry_policy", command.retryPolicy.toDict),
    ("timeout_seconds", .ofTimestamp command.timeoutSeconds),
    ("payload", command.payload),
    ("schema_version", .ofNat schemaVersion)]

/-! ### Errors of an execution, leases -/

structure ExecutionError where
  code : Identifier
  message : String
  retryable : Bool
  details : List (String × Json)

def ExecutionError.toDict (error : ExecutionError) : Json := .object
  [("code", error.code.toJson), ("message", .string error.message),
    ("retryable", .bool error.retryable),
    ("details", .object error.details),
    ("schema_version", .ofNat schemaVersion)]

theorem first_positive : 1 ≤ 1 := le_rfl

theorem second_positive : 1 ≤ 2 := by decide

theorem third_positive : 1 ≤ 3 := by decide

structure ExecutionLease where
  executionId : Identifier
  leaseId : Identifier
  owner : Identifier
  fence : ℕ
  attempt : ℕ
  expiresAt : Timestamp
  revision : ℕ
  fencePositive : 1 ≤ fence
  attemptPositive : 1 ≤ attempt
  revisionPositive : 1 ≤ revision
  deriving DecidableEq

def ExecutionLease.toDict (lease : ExecutionLease) : Json := .object
  [("execution_id", lease.executionId.toJson), ("lease_id", lease.leaseId.toJson),
    ("owner", lease.owner.toJson),
    ("fence", .ofNat lease.fence),
    ("attempt", .ofNat lease.attempt),
    ("expires_at", .ofTimestamp lease.expiresAt),
    ("revision", .ofNat lease.revision),
    ("schema_version", .ofNat schemaVersion)]

/-! ### Results -/

/-- The fields of an `ExecutionResultV2`, before its constructor has checked them. -/
structure ResultFields where
  resultId : Identifier
  executionId : Identifier
  status : ExecutionState
  attempt : ℕ
  fence : ℕ
  effectIds : List Identifier
  startedAt : Timestamp
  completedAt : Timestamp
  correlationId : Identifier
  causationId : Option Identifier
  value : Json
  error : Option ExecutionError

/-- `value is None`. -/
def Json.isNull : Json → Bool
  | .null => true
  | _ => false

/-- `ExecutionResultV2.__post_init__`. -/
def ResultFields.check (fields : ResultFields) : Except KernelError Unit := do
  ensure (fields.status.terminal = true)
    (.contractValidation ("unsupported result status '" ++ fields.status.text ++ "'"))
  ensure (fields.attempt = 0 ↔ fields.fence = 0)
    (.contractValidation "attempt and fence must both be zero or both be positive")
  ensure (fields.status ≠ .cancelled → fields.attempt ≠ 0 ∧ fields.fence ≠ 0)
    (.contractValidation "non-cancelled results require positive attempt and fence")
  ensure fields.effectIds.Nodup (.contractValidation "effect_ids must be unique")
  ensure (fields.startedAt ≤ fields.completedAt)
    (.contractValidation "completed_at must be >= started_at")
  ensure (fields.status = .succeeded → fields.error.isNone)
    (.contractValidation "succeeded result cannot contain an error")
  ensure (fields.status ≠ .succeeded → fields.error.isSome)
    (.contractValidation "non-succeeded result requires an error")
  ensure (fields.status ≠ .succeeded → fields.value.isNull)
    (.contractValidation "non-succeeded result value must be null")
  ensure (fields.status = .dead → ∀ error ∈ fields.error, error.retryable = false)
    (.contractValidation "dead result error must not be retryable")
  ensure (fields.status = .cancelled → ∀ error ∈ fields.error, error.retryable = false)
    (.contractValidation "cancelled result error must not be retryable")

/-- `ExecutionResultV2`: fields its constructor accepted. -/
structure ExecutionResult extends ResultFields where
  accepted : toResultFields.check = .ok ()

namespace ExecutionResult

def make (fields : ResultFields) : Except KernelError ExecutionResult :=
  match outcome : fields.check with
  | .ok () => .ok ⟨fields, outcome⟩
  | .error failure => .error failure

theorem make_fields {fields : ResultFields} {result : ExecutionResult}
    (made : make fields = .ok result) : result.toResultFields = fields := by
  unfold make at made
  split at made
  · cases made
    rfl
  · cases made

theorem status_terminal (result : ExecutionResult) : result.status.terminal = true := by
  have accepted := result.accepted
  simp only [ResultFields.check, ensure_bind_eq_ok] at accepted
  exact accepted.1

def toDict (result : ExecutionResult) : Json := .object
  [("result_id", result.resultId.toJson), ("execution_id", result.executionId.toJson),
    ("status", result.status.toJson),
    ("attempt", .ofNat result.attempt),
    ("fence", .ofNat result.fence),
    ("effect_ids", .array (result.effectIds.map Identifier.toJson)),
    ("started_at", .ofTimestamp result.startedAt),
    ("completed_at", .ofTimestamp result.completedAt),
    ("correlation_id", result.correlationId.toJson),
    ("causation_id", .ofOption Identifier.toJson result.causationId),
    ("value", result.value),
    ("error", .ofOption ExecutionError.toDict result.error),
    ("schema_version", .ofNat schemaVersion)]

def toJson (result : ExecutionResult) : Json.Text := result.toDict.encode

end ExecutionResult

/-! ### Snapshots -/

/-- The fields of an `ExecutionSnapshot`, before its constructor has checked them. -/
structure SnapshotFields where
  executionId : Identifier
  state : ExecutionState
  revision : ℕ
  attempt : ℕ
  fence : ℕ
  redeliveryCount : ℕ
  command : ExecutionCommand
  lease : Option ExecutionLease
  result : Option ExecutionResult
  recoveryEffectId : Option Identifier
  recoveryTargetState : Option RecoveryTarget
  recoveryReason : Option Identifier
  nextAttemptAt : Timestamp
  startedAt : Option Timestamp
  createdAt : Timestamp
  updatedAt : Timestamp

/-- `ExecutionSnapshot.__post_init__`. -/
def SnapshotFields.check (fields : SnapshotFields) : Except KernelError Unit := do
  ensure (1 ≤ fields.revision) (.contractValidation "revision must be an integer >= 1")
  ensure (fields.attempt = 0 ↔ fields.fence = 0)
    (.contractValidation "snapshot attempt and fence must both be zero or both be positive")
  ensure (fields.command.executionId = fields.executionId)
    (.contractValidation "snapshot and command execution_id must match")
  ensure (fields.state.held = true → fields.lease.isSome)
    (.contractValidation "leased/running snapshot requires a lease")
  ensure (fields.state.held = false → fields.lease.isNone)
    (.contractValidation "only leased/running snapshot may carry a lease")
  ensure (fields.state.terminal = true ↔ fields.result.isSome)
    (.contractValidation "terminal snapshots require exactly one result")
  ensure (fields.state = .recoveryRequired → fields.recoveryEffectId.isSome)
    (.contractValidation "recovery_required snapshot requires recovery_effect_id")
  ensure (fields.state ≠ .recoveryRequired → fields.recoveryEffectId.isNone)
    (.contractValidation "only recovery_required snapshot may carry recovery_effect_id")
  ensure (fields.state = .recoveryRequired → fields.recoveryTargetState.isSome)
    (.contractValidation
      "recovery_required snapshot requires queued or cancelled recovery_target_state")
  ensure (fields.state = .recoveryRequired →
      (fields.recoveryTargetState = some .cancelled ↔ fields.recoveryReason.isSome))
    (.contractValidation "cancelled recovery target requires exactly one recovery_reason")
  ensure (fields.state ≠ .recoveryRequired →
      fields.recoveryTargetState.isNone ∧ fields.recoveryReason.isNone)
    (.contractValidation "only recovery_required snapshot may carry recovery target metadata")
  ensure (∀ lease ∈ fields.lease, lease.executionId = fields.executionId ∧
      lease.attempt = fields.attempt ∧ lease.fence = fields.fence ∧
      lease.revision = fields.revision)
    (.contractValidation "snapshot lease identity does not match")
  ensure (∀ result ∈ fields.result, result.executionId = fields.executionId ∧
      result.attempt = fields.attempt ∧ result.fence = fields.fence ∧
      result.status = fields.state ∧ result.correlationId = fields.command.correlationId ∧
      result.causationId = fields.command.causationId)
    (.contractValidation "snapshot result identity does not match")
  ensure (fields.state = .running ∨ fields.state = .recoveryRequired → fields.startedAt.isSome)
    (.contractValidation "running/recovery_required snapshot requires started_at")
  ensure (fields.state = .queued ∨ fields.state = .leased → fields.startedAt.isNone)
    (.contractValidation "queued/leased snapshot cannot have started_at")
  ensure (fields.createdAt ≤ fields.updatedAt)
    (.contractValidation "updated_at must be >= created_at")
  ensure (fields.state.terminal = true →
      fields.startedAt.isSome ∧ fields.result.map (·.startedAt) = fields.startedAt)
    (.contractValidation "terminal snapshot started_at must match its result")

/-- `ExecutionSnapshot`: fields its constructor accepted. -/
structure ExecutionSnapshot extends SnapshotFields where
  accepted : toSnapshotFields.check = .ok ()

namespace ExecutionSnapshot

def make (fields : SnapshotFields) : Except KernelError ExecutionSnapshot :=
  match outcome : fields.check with
  | .ok () => .ok ⟨fields, outcome⟩
  | .error failure => .error failure

theorem recovery_pointer (snapshot : ExecutionSnapshot)
    (parked : snapshot.state = .recoveryRequired) : snapshot.recoveryEffectId.isSome := by
  have accepted := snapshot.accepted
  simp only [SnapshotFields.check, ensure_bind_eq_ok] at accepted
  exact accepted.2.2.2.2.2.2.1 parked

theorem make_fields {fields : SnapshotFields} {snapshot : ExecutionSnapshot}
    (made : make fields = .ok snapshot) : snapshot.toSnapshotFields = fields := by
  unfold make at made
  split at made
  · cases made
    rfl
  · cases made

end ExecutionSnapshot

/-! ### Effects -/

/-- The fields of an `EffectRecord`, before its constructor has checked them. -/
structure EffectFields where
  effectId : Identifier
  executionId : Identifier
  name : Identifier
  request : Json
  state : EffectState
  leaseId : Identifier
  claimId : Option Identifier
  attempt : ℕ
  fence : ℕ
  preparedAt : Timestamp
  response : Json
  committedAt : Option Timestamp
  indeterminateAt : Option Timestamp
  recoveryId : Option Identifier
  recoveryDecision : Option RecoveryDecision
  resolvedAt : Option Timestamp
  revision : ℕ

/-- `EffectRecord.__post_init__`. -/
def EffectFields.check (fields : EffectFields) : Except KernelError Unit := do
  ensure (1 ≤ fields.attempt) (.contractValidation "attempt must be an integer >= 1")
  ensure (1 ≤ fields.fence) (.contractValidation "fence must be an integer >= 1")
  ensure (1 ≤ fields.revision) (.contractValidation "revision must be an integer >= 1")
  ensure (fields.state = .prepared → fields.response.isNull ∧ fields.committedAt.isNone)
    (.contractValidation "prepared effect cannot carry an outcome")
  ensure (fields.state = .performing →
      fields.claimId.isSome ∧ fields.response.isNull ∧ fields.committedAt.isNone)
    (.contractValidation "performing effect requires claim_id and cannot carry an outcome")
  ensure (fields.state = .prepared ∨ fields.state = .notApplied → fields.claimId.isNone)
    (.contractValidation "prepared/not_applied effect cannot carry claim_id")
  ensure (fields.state = .committed → fields.committedAt.isSome)
    (.contractValidation "committed effect requires committed_at")
  ensure (fields.state = .committed → fields.indeterminateAt.isSome → fields.recoveryId.isSome)
    (.contractValidation "a recovered committed effect requires recovery_id")
  ensure (fields.state = .indeterminate →
      fields.indeterminateAt.isSome ∧ fields.committedAt.isNone)
    (.contractValidation "indeterminate effect requires indeterminate_at and no committed_at")
  ensure (fields.state = .indeterminate → fields.recoveryId.isNone)
    (.contractValidation "an indeterminate effect cannot carry a completed recovery decision")
  ensure (fields.state = .notApplied → fields.indeterminateAt.isSome ∧
      fields.committedAt.isNone ∧ fields.response.isNull ∧
      fields.recoveryDecision = some .notApplied)
    (.contractValidation "not_applied effect has inconsistent recovery data")
  ensure ((fields.recoveryId.isNone ↔ fields.recoveryDecision.isNone) ∧
      (fields.recoveryId.isNone ↔ fields.resolvedAt.isNone))
    (.contractValidation "recovery_id, recovery_decision, and resolved_at must appear together")
  ensure (fields.recoveryDecision = some .applied → fields.state = .committed)
    (.contractValidation "applied recovery must produce committed state")
  ensure (fields.recoveryId.isSome → fields.indeterminateAt.isSome)
    (.contractValidation "a recovery decision requires the prior indeterminate timestamp")
  ensure (∀ committed ∈ fields.committedAt, fields.preparedAt ≤ committed)
    (.contractValidation "committed_at must be >= prepared_at")
  ensure (∀ indeterminate ∈ fields.indeterminateAt, fields.preparedAt ≤ indeterminate)
    (.contractValidation "indeterminate_at must be >= prepared_at")
  ensure (∀ resolved ∈ fields.resolvedAt, ∃ indeterminate ∈ fields.indeterminateAt,
      indeterminate ≤ resolved)
    (.contractValidation "resolved_at must be >= indeterminate_at")
  ensure (∀ committed ∈ fields.committedAt, ∀ resolved ∈ fields.resolvedAt, resolved ≤ committed)
    (.contractValidation "committed_at must be >= resolved_at")

/-- `EffectRecord`: fields its constructor accepted. -/
structure EffectRecord extends EffectFields where
  accepted : toEffectFields.check = .ok ()

namespace EffectRecord

def make (fields : EffectFields) : Except KernelError EffectRecord :=
  match outcome : fields.check with
  | .ok () => .ok ⟨fields, outcome⟩
  | .error failure => .error failure

theorem make_fields {fields : EffectFields} {record : EffectRecord}
    (made : make fields = .ok record) : record.toEffectFields = fields := by
  unfold make at made
  split at made
  · cases made
    rfl
  · cases made

end EffectRecord

end DispatcherSdk.ExecutionKernel
