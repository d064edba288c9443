/-
This file is a small library for pure computations that check something and may fail, and for
fallible stateful programs whose state is *kept* when they fail.

A chain of checks succeeds exactly if every check passes and the rest succeeds. A program
running inside a database transaction does not throw its state away on failure: what it has
observed is still there for whoever handles the failure, who decides what to roll back.
-/

import Mathlib.Data.List.Forall2
import Mathlib.Order.Basic
import Mathlib.Tactic.Common

namespace Library

open Option List

namespace Checked

variable {Failure Value Answer : Type}

/-- Continue only if a condition holds. -/
def check (condition : Prop) [Decidable condition] (failure : Failure) : Except Failure Unit :=
  if condition then .ok () else .error failure

/-- Unpack an optional value, or fail when there is none. -/
def present (value : Option Value) (failure : Failure) : Except Failure Value :=
  match value with
  | some found => .ok found
  | none => .error failure

variable {answer : Answer}

theorem bind_eq_ok {first : Except Failure Value} {rest : Value → Except Failure Answer} :
    (first >>= rest) = .ok answer ↔ ∃ value, first = .ok value ∧ rest value = .ok answer := by
  cases first with
  | error failure => exact ⟨nofun, fun ⟨_, failed, _⟩ => nomatch failed⟩
  | ok value => exact ⟨fun passed => ⟨value, rfl, passed⟩, fun ⟨_, rfl, passed⟩ => passed⟩

variable {failure : Failure}

theorem check_eq_ok {condition : Prop} [Decidable condition] {value : Unit} :
    check condition failure = .ok value ↔ condition := by
  unfold check
  split
  · rename_i holds
    exact ⟨fun _ => holds, fun _ => rfl⟩
  · rename_i fails
    refine ⟨fun failed => ?_, fun holds => absurd holds fails⟩
    cases failed

theorem present_eq_ok {value : Option Value} {found : Value} :
    present value failure = .ok found ↔ value = some found := by
  cases value with
  | none => exact ⟨nofun, nofun⟩
  | some stored =>
    exact ⟨fun passed => congrArg some (Except.ok.inj passed),
      fun same => congrArg Except.ok (Option.some.inj same)⟩

/-- The rules that take a chain of checks apart, together. -/
theorem passes_iff :
    (∀ {Failure Value Answer : Type} {first : Except Failure Value}
      {rest : Value → Except Failure Answer} {answer : Answer},
      (first >>= rest) = .ok answer ↔ ∃ value, first = .ok value ∧ rest value = .ok answer) ∧
    (∀ {Failure : Type} {condition : Prop} [Decidable condition] {failure : Failure} {value : Unit},
      check condition failure = .ok value ↔ condition) ∧
    (∀ {Failure Value : Type} {value : Option Value} {failure : Failure} {found : Value},
      present value failure = .ok found ↔ value = some found) ∧
    ∀ {Value : Type} [Nonempty Value] {condition : Prop}, (∃ _ : Value, condition) ↔ condition :=
  ⟨bind_eq_ok, check_eq_ok, present_eq_ok, exists_const _⟩

theorem map_eq_ok {function : Value → Answer} {outcome : Except Failure Value} :
    function <$> outcome = .ok answer ↔ ∃ value, outcome = .ok value ∧ function value = answer := by
  cases outcome with
  | error failure => exact ⟨nofun, fun ⟨_, failed, _⟩ => nomatch failed⟩
  | ok value =>
    exact ⟨fun passed => ⟨value, rfl, Except.ok.inj passed⟩, fun ⟨_, rfl, same⟩ => by rw [← same]; rfl⟩

variable {Item : Type} {function : Item → Except Failure Value} {items : List Item} {values : List Value}

/-- A fallible function passes over a list exactly if it passes over every element. -/
theorem mapM_eq_ok :
    items.mapM function = .ok values ↔
      List.Forall₂ (fun item value => function item = .ok value) items values := by
  induction items generalizing values with
  | nil =>
    rw [mapM_nil, forall₂_nil_left_iff]
    exact ⟨fun same => (Except.ok.inj same).symm, fun same => by rw [same]; rfl⟩
  | cons item rest hypothesis =>
    rw [mapM_cons, bind_eq_ok, forall₂_cons_left_iff]
    refine ⟨fun ⟨value, passed, others⟩ => ?_, fun ⟨value, values, passed, others, same⟩ => ?_⟩
    · obtain ⟨values, passedRest, same⟩ := bind_eq_ok.mp others
      exact ⟨value, values, passed, hypothesis.mp passedRest, (Except.ok.inj same).symm⟩
    · exact ⟨value, passed, bind_eq_ok.mpr ⟨values, hypothesis.mpr others, by rw [same]; rfl⟩⟩

/-- The same for a function that may find nothing. -/
theorem mapM_eq_some {function : Item → Option Value} :
    items.mapM function = some values ↔
      List.Forall₂ (fun item value => function item = some value) items values := by
  induction items generalizing values with
  | nil =>
    rw [mapM_nil, forall₂_nil_left_iff]
    exact ⟨fun same => (Option.some.inj same).symm, fun same => by rw [same]; rfl⟩
  | cons item rest hypothesis =>
    rw [mapM_cons, forall₂_cons_left_iff]
    simp only [Option.bind_eq_bind, Option.bind_eq_some_iff, Option.pure_def, Option.some.injEq,
      hypothesis]
    refine ⟨fun ⟨value, passed, values, others, same⟩ => ⟨value, values, passed, others, same.symm⟩,
      fun ⟨value, values, passed, others, same⟩ => ⟨value, passed, values, others, same.symm⟩⟩

/-- A fallible function that passes over a list passes over each element. -/
theorem mapM_passes (passed : items.mapM function = .ok values) :
    ∀ item ∈ items, ∃ value, function item = .ok value := by
  have related := mapM_eq_ok.mp passed
  clear passed
  induction related with
  | nil => exact fun _ member => absurd member not_mem_nil
  | cons first _ hypothesis =>
    intro item member
    rcases mem_cons.mp member with rfl | later
    · exact ⟨_, first⟩
    · exact hypothesis item later

/-- A property that every round of a fallible loop keeps holds of what the loop answers. -/
theorem foldlM_keeps {State : Type} (Property : State → Prop)
    {round : State → Item → Except Failure State}
    (kept : ∀ {state next item}, Property state → round state item = .ok next → Property next)
    {state last : State} (holds : Property state)
    (passed : items.foldlM round state = .ok last) : Property last := by
  induction items generalizing state with
  | nil =>
    cases passed
    exact holds
  | cons item rest hypothesis =>
    rw [foldlM_cons] at passed
    obtain ⟨next, first, others⟩ := bind_eq_ok.mp passed
    exact hypothesis (kept holds first) others

end Checked

/-- A program that reads an environment, changes a state, and answers or fails. The state in
which it stopped is kept either way, and never lies below the state it started in. -/
structure Attempt (Environment State Failure : Type) [Preorder State] (Answer : Type) where
  /-- The outcome and the state in which the program stopped. -/
  run : Environment → State → Except Failure Answer × State
  /-- The state only grows, on success and on failure alike. -/
  grows : ∀ environment state, state ≤ (run environment state).2

namespace Attempt

variable {Environment State Failure Answer Value : Type} [Preorder State]

/-! ### The combinators -/

/-- Answer without looking at the state. -/
def answer (value : Answer) : Attempt Environment State Failure Answer where
  run _ state := (.ok value, state)
  grows _ state := le_refl state

/-- Run one program and then another on its answer; the first failure stops both. -/
def andThen (first : Attempt Environment State Failure Value)
    (rest : Value → Attempt Environment State Failure Answer) :
    Attempt Environment State Failure Answer where
  run environment state :=
    match first.run environment state with
    | (.ok value, next) => (rest value).run environment next
    | (.error failure, next) => (.error failure, next)
  grows environment state := by
    have grown := first.grows environment state
    rcases outcome : first.run environment state with ⟨_ | value, next⟩ <;> rw [outcome] at grown
    · exact grown
    · exact grown.trans ((rest value).grows environment next)

instance : Monad (Attempt Environment State Failure) where
  pure := answer
  bind := andThen

/-- Stop with an error. -/
def fail (failure : Failure) : Attempt Environment State Failure Answer where
  run _ state := (.error failure, state)
  grows _ state := le_refl state

/-- Look at the environment. -/
def ask : Attempt Environment State Failure Environment where
  run environment state := (.ok environment, state)
  grows _ state := le_refl state

/-- Look at the state. -/
def look : Attempt Environment State Failure State where
  run _ state := (.ok state, state)
  grows _ state := le_refl state

/-- Replace the state by one that does not lie below it. -/
def change (next : State → State) (growing : ∀ state, state ≤ next state) :
    Attempt Environment State Failure Unit where
  run _ state := (.ok (), next state)
  grows _ state := growing state

/-- Stop with an error unless a condition holds. -/
def require (condition : Prop) [Decidable condition] (failure : Failure) :
    Attempt Environment State Failure Unit :=
  if condition then answer () else fail failure

/-- Unpack an optional value, or stop with an error when there is none. -/
def expect (value : Option Answer) (failure : Failure) : Attempt Environment State Failure Answer :=
  match value with
  | some found => answer found
  | none => fail failure

/-- Pass on the outcome of a pure computation that may fail. -/
def lift (outcome : Except Failure Answer) : Attempt Environment State Failure Answer where
  run _ state := (outcome, state)
  grows _ state := le_refl state

/-- Replace every error of a program by one fixed error, keeping its answer and its state. -/
def masking (failure : Failure) (program : Attempt Environment State Failure Answer) :
    Attempt Environment State Failure Answer where
  run environment state :=
    match program.run environment state with
    | (.ok value, next) => (.ok value, next)
    | (.error _, next) => (.error failure, next)
  grows environment state := by
    have grown := program.grows environment state
    rcases outcome : program.run environment state with ⟨_ | value, next⟩ <;>
      rw [outcome] at grown <;> exact grown

/-- Run a program on every element of a list, from left to right. -/
def forEach (items : List Value) (program : Value → Attempt Environment State Failure Unit) :
    Attempt Environment State Failure Unit :=
  match items with
  | [] => answer ()
  | item :: rest => andThen (program item) fun _ => forEach rest program

/-! ### What a successful run ensures -/

/-- If the program succeeds from this state, its answer and final state satisfy the condition. -/
def Ensures (program : Attempt Environment State Failure Answer) (environment : Environment)
    (state : State) (condition : Answer → State → Prop) : Prop :=
  ∀ value next, program.run environment state = (.ok value, next) → condition value next

variable {environment : Environment} {state : State}

variable {program : Attempt Environment State Failure Answer}

theorem Ensures.mono {weak strong : Answer → State → Prop}
    (ensures : Ensures program environment state strong)
    (imply : ∀ value next, strong value next → weak value next) :
    Ensures program environment state weak :=
  fun value next success => imply value next (ensures value next success)

theorem Ensures.and {left right : Answer → State → Prop}
    (ensuresLeft : Ensures program environment state left)
    (ensuresRight : Ensures program environment state right) :
    Ensures program environment state fun value next => left value next ∧ right value next :=
  fun value next success => ⟨ensuresLeft value next success, ensuresRight value next success⟩

theorem ensures_trivial (program : Attempt Environment State Failure Answer) :
    Ensures program environment state fun _ _ => True :=
  fun _ _ _ => trivial

variable {condition : Answer → State → Prop}

theorem ensures_pure {value : Answer} (holds : condition value state) :
    Ensures (pure value : Attempt Environment State Failure Answer) environment state
      condition := by
  intro _ _ success
  cases success
  exact holds

theorem ensures_bind {first : Attempt Environment State Failure Value} {rest : Value → Attempt Environment State Failure Answer}
    (ensures : Ensures first environment state fun value next =>
      Ensures (rest value) environment next condition) :
    Ensures (first >>= rest) environment state condition := by
  intro value next success
  change (andThen first rest).run environment state = (.ok value, next) at success
  unfold andThen at success
  rcases outcome : first.run environment state with ⟨_ | middle, between⟩ <;>
    simp only [outcome] at success
  · cases success
  · exact ensures middle between outcome value next success

theorem ensures_fail (failure : Failure) :
    Ensures (fail failure : Attempt Environment State Failure Answer) environment state
      condition := by
  intro _ _ success
  cases success

theorem ensures_ask {condition : Environment → State → Prop} (holds : condition environment state) :
    Ensures (ask : Attempt Environment State Failure Environment) environment state
      condition := by
  intro _ _ success
  cases success
  exact holds

variable {failure : Failure}

theorem ensures_require {asked : Prop} [Decidable asked]
    {condition : Unit → State → Prop} (holds : asked → condition () state) :
    Ensures (require asked failure : Attempt Environment State Failure Unit) environment state
      condition := by
  unfold require
  split
  · exact ensures_pure (holds ‹_›)
  · exact ensures_fail failure

theorem ensures_expect {value : Option Answer}
    (holds : ∀ found, value = some found → condition found state) :
    Ensures (expect value failure : Attempt Environment State Failure Answer) environment state
      condition := by
  unfold expect
  split
  · exact ensures_pure (holds _ rfl)
  · exact ensures_fail failure

theorem ensures_lift {outcome : Except Failure Answer}
    (holds : ∀ value, outcome = .ok value → condition value state) :
    Ensures (lift outcome : Attempt Environment State Failure Answer) environment state
      condition := by
  intro value next success
  cases success
  exact holds value rfl

section Steps

variable {rest : Value → Attempt Environment State Failure Answer}

theorem then_require {asked : Prop} [Decidable asked]
    {rest : Unit → Attempt Environment State Failure Answer}
    (holds : asked → Ensures (rest ()) environment state condition) :
    Ensures (require asked failure >>= rest) environment state condition :=
  ensures_bind (ensures_require holds)

theorem then_expect {value : Option Value}
    (holds : ∀ found, value = some found → Ensures (rest found) environment state condition) :
    Ensures (expect value failure >>= rest) environment state condition :=
  ensures_bind (ensures_expect holds)

theorem then_lift {outcome : Except Failure Value}
    (holds : ∀ value, outcome = .ok value → Ensures (rest value) environment state condition) :
    Ensures (lift outcome >>= rest) environment state condition :=
  ensures_bind (ensures_lift holds)

end Steps

theorem ensures_masking (ensures : Ensures program environment state condition) :
    Ensures (masking failure program) environment state condition := by
  intro value next success
  unfold masking at success
  rcases outcome : program.run environment state with ⟨_ | answered, between⟩ <;>
    simp only [outcome] at success
  · cases success
  · cases success
    exact ensures value next outcome

theorem ensures_ite {asked : Prop} [Decidable asked]
    {yes no : Attempt Environment State Failure Answer}
    (ensuresYes : asked → Ensures yes environment state condition)
    (ensuresNo : ¬ asked → Ensures no environment state condition) :
    Ensures (if asked then yes else no) environment state condition := by
  split
  · exact ensuresYes ‹_›
  · exact ensuresNo ‹_›

/-- What a loop keeps may depend on the items it has not come to yet. -/
theorem ensures_forEach {items : List Value}
    {program : Value → Attempt Environment State Failure Unit}
    (invariant : List Value → State → Prop) (holds : invariant items state)
    (round : ∀ item rest state, invariant (item :: rest) state →
      Ensures (program item) environment state fun _ next => invariant rest next) :
    Ensures (forEach items program) environment state fun _ next => invariant [] next := by
  induction items generalizing state with
  | nil => exact ensures_pure holds
  | cons item rest hypothesis =>
    refine ensures_bind ((round item rest state holds).mono ?_)
    intro _ next kept
    exact hypothesis kept

/-! ### What a program leaves alone -/

section Spares

variable {Aspect : Type} {aspect : State → Aspect}

end Spares

end Attempt

end Library
