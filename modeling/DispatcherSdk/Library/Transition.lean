/-
This file is a small library of transition systems, and of licences that are used up and
given back.

A property that holds in every initial state and is kept by every step holds in every reachable
state, and a relation that is reflexive and transitive and that every step respects relates the
two ends of every run. A licence that is only used while it is there is used at most once more
than it is given back.
-/

import Mathlib.Data.List.Basic
import Mathlib.Data.List.Induction
import Mathlib.Logic.Relation

namespace Library

open List

section Licence

variable {Event : Type} (uses returns : Event → Bool)

/-- Whether the licence is there after an event, if it was there or not before it. -/
def licenceAfter (there : Bool) (event : Event) : Bool :=
  if uses event then false else there || returns event

/-- The licence is there at the end of a history that starts with it. -/
def holdsLicence (history : List Event) : Bool :=
  history.foldl (licenceAfter uses returns) true

/-- Every event that uses the licence happens while it is there. -/
def Licensed (history : List Event) : Prop :=
  ∀ earlier event, earlier ++ [event] <+: history → uses event = true →
    holdsLicence uses returns earlier = true

variable {uses returns}

theorem holdsLicence_concat (history : List Event) (event : Event) :
    holdsLicence uses returns (history ++ [event]) =
      licenceAfter uses returns (holdsLicence uses returns history) event := by
  unfold holdsLicence
  rw [foldl_append]
  rfl

variable {history : List Event}

variable {event : Event}

/-- An event that does not use the licence leaves it where it is, or gives it back. -/
theorem holdsLicence_keep (holds : holdsLicence uses returns history = true)
    (unused : uses event = false) : holdsLicence uses returns (history ++ [event]) = true := by
  rw [holdsLicence_concat, holds, licenceAfter, unused]
  rfl

/-- An event that gives the licence back leaves it there. -/
theorem holdsLicence_return (unused : uses event = false) (returned : returns event = true) :
    holdsLicence uses returns (history ++ [event]) = true := by
  rw [holdsLicence_concat, licenceAfter, unused, returned, Bool.or_true]
  rfl

theorem Licensed.nil : Licensed uses returns [] := by
  intro earlier event before
  have short := before.length_le
  simp at short

theorem Licensed.concat (licensed : Licensed uses returns history)
    (allowed : uses event = true → holdsLicence uses returns history = true) :
    Licensed uses returns (history ++ [event]) := by
  intro earlier other before used
  rcases prefix_concat_iff.mp before with same | old
  · obtain ⟨rfl, new⟩ := append_inj' same rfl
    rw [List.cons.injEq] at new
    rw [new.1] at used
    exact allowed used
  · exact licensed earlier other old used

theorem Licensed.of_concat (licensed : Licensed uses returns (history ++ [event])) :
    Licensed uses returns history :=
  fun earlier other before => licensed earlier other (before.trans (prefix_append _ _))

/-- The licence is used at most once more than it is given back. -/
theorem Licensed.count (licensed : Licensed uses returns history) :
    history.countP uses + (if holdsLicence uses returns history then 1 else 0) ≤
      history.countP returns + 1 := by
  induction history using List.reverseRecOn with
  | nil => exact Nat.le_refl _
  | append_singleton history event hypothesis =>
    have bound := hypothesis licensed.of_concat
    have allowed := licensed history event (prefix_refl _)
    rw [holdsLicence_concat, countP_append, countP_append, countP_singleton,
      countP_singleton, licenceAfter]
    by_cases used : uses event = true
    · rw [allowed used] at bound
      simp only [used, if_true, Bool.false_eq_true, if_false] at bound ⊢
      omega
    · by_cases returned : returns event = true
      · simp only [used, returned, Bool.or_true, if_true, Bool.false_eq_true, if_false] at bound ⊢
        omega
      · simp only [used, returned, Bool.or_false, Bool.false_eq_true, if_false] at bound ⊢
        omega

theorem foldl_licenceAfter_false (holds : history.foldl (licenceAfter uses returns) false = true) :
    ∃ event ∈ history, returns event = true := by
  induction history with
  | nil => cases holds
  | cons event rest hypothesis =>
    by_cases returned : returns event = true
    · exact ⟨event, mem_cons_self, returned⟩
    · have without : licenceAfter uses returns false event = false := by
        unfold licenceAfter
        split
        · rfl
        · simpa using returned
      rw [foldl_cons, without] at holds
      obtain ⟨other, member, found⟩ := hypothesis holds
      exact ⟨other, mem_cons_of_mem event member, found⟩

/-- Between two uses the licence is given back. -/
theorem Licensed.returned {first middle last : List Event} {earlier later : Event}
    (licensed : Licensed uses returns (first ++ earlier :: (middle ++ later :: last)))
    (used : uses earlier = true) (again : uses later = true) :
    ∃ event ∈ middle, returns event = true := by
  have holds : holdsLicence uses returns (first ++ earlier :: middle) = true := by
    refine licensed (first ++ earlier :: middle) later ⟨last, ?_⟩ again
    simp
  unfold holdsLicence at holds
  rw [foldl_append, foldl_cons] at holds
  have spent : licenceAfter uses returns (first.foldl (licenceAfter uses returns) true) earlier =
      false := by
    unfold licenceAfter
    rw [if_pos used]
  rw [spent] at holds
  exact foldl_licenceAfter_false holds

end Licence

open Relation

/-- States, the ones to start from, and the steps between them. -/
structure TransitionSystem (State : Type) where
  initial : State → Prop
  step : State → State → Prop

namespace TransitionSystem

variable {State : Type} {system : TransitionSystem State}

/-- A run from one state to another. -/
def Run (system : TransitionSystem State) : State → State → Prop := ReflTransGen system.step

/-- A state that some run from an initial state ends in. -/
def Reachable (system : TransitionSystem State) (state : State) : Prop :=
  ∃ first, system.initial first ∧ system.Run first state

theorem Reachable.start {state : State} (initial : system.initial state) : system.Reachable state :=
  ⟨state, initial, .refl⟩

theorem Reachable.next {state next : State} (reachable : system.Reachable state)
    (step : system.step state next) : system.Reachable next := by
  obtain ⟨first, initial, run⟩ := reachable
  exact ⟨first, initial, run.tail step⟩

variable {state last : State}

theorem Reachable.run (reachable : system.Reachable state)
    (run : system.Run state last) : system.Reachable last := by
  obtain ⟨first, initial, before⟩ := reachable
  exact ⟨first, initial, before.trans run⟩

/-- An invariant holds in every reachable state. -/
theorem Reachable.invariant (Invariant : State → Prop)
    (initially : ∀ state, system.initial state → Invariant state)
    (kept : ∀ state next, system.Reachable state → Invariant state → system.step state next →
      Invariant next)
    {state : State} (reachable : system.Reachable state) : Invariant state := by
  obtain ⟨first, initial, run⟩ := reachable
  induction run with
  | refl => exact initially first initial
  | tail before step hypothesis =>
    exact kept _ _ ⟨first, initial, before⟩ hypothesis step

/-- What every step respects, every run respects. -/
theorem Reachable.respects (relation : State → State → Prop) (reflexive : ∀ state, relation state state)
    (transitive : ∀ {first second third}, relation first second → relation second third →
      relation first third)
    (respected : ∀ state next, system.Reachable state → system.step state next →
      relation state next)
    (reachable : system.Reachable state) (run : system.Run state last) : relation state last := by
  induction run with
  | refl => exact reflexive state
  | tail before step hypothesis =>
    exact transitive hypothesis (respected _ _ (reachable.run before) step)

/-- A property that every step keeps is kept by every run. -/
theorem Reachable.keeps (Property : State → Prop)
    (kept : ∀ state next, system.Reachable state → Property state → system.step state next →
      Property next)
    (reachable : system.Reachable state) (holds : Property state)
    (run : system.Run state last) : Property last := by
  induction run with
  | refl => exact holds
  | tail before step hypothesis =>
    exact kept _ _ (reachable.run before) hypothesis step

end TransitionSystem

/-- A property that every link of a chain keeps is kept by the chain. -/
theorem keeps_of_links {State : Type} {link : State → State → Prop} (Property : State → Prop)
    (kept : ∀ {state next}, Property state → link state next → Property next)
    {state last : State} (holds : Property state) (chain : ReflTransGen link state last) :
    Property last := by
  induction chain with
  | refl => exact holds
  | tail _ step hypothesis => exact kept hypothesis step

/-- What every link of a chain respects, the chain respects, if it can rest on a property that every
link keeps. -/
theorem respects_of_links {State : Type} {link : State → State → Prop} (Property : State → Prop)
    {relation : State → State → Prop} (reflexive : ∀ state, relation state state)
    (transitive : ∀ {first second third}, relation first second → relation second third →
      relation first third)
    (kept : ∀ {state next}, Property state → link state next → Property next)
    (respected : ∀ {state next}, Property state → link state next → relation state next)
    {state last : State} (holds : Property state) (chain : ReflTransGen link state last) :
    relation state last := by
  have both : Property last ∧ relation state last := by
    induction chain with
    | refl => exact ⟨holds, reflexive state⟩
    | tail _ step hypothesis =>
      exact ⟨kept hypothesis.1 step,
        transitive hypothesis.2 (respected hypothesis.1 step)⟩
  exact both.2

end Library
