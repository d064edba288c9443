/-
This file is a small library for two searches of a directed graph: the set of the vertices
that can be reached from some of them, and the groups of vertices that lie on a common
cycle.
-/

import Mathlib.Data.Finset.Card
import Mathlib.Data.Finset.SDiff
import Mathlib.Logic.Relation

namespace Library

open Relation List

variable {Vertex : Type} [DecidableEq Vertex]

/-! ### What can be reached -/

/-- Add what comes after the pending vertices. The room bounds the vertices taken up. -/
def spread (successors : Vertex → List Vertex) : ℕ → List Vertex → List Vertex → List Vertex
  | 0, _, affected => affected
  | _ + 1, [], affected => affected
  | room + 1, vertex :: pending, affected =>
    let found := (successors vertex).filter (· ∉ affected)
    spread successors room (pending ++ found) (affected ++ found)

variable {successors predecessors : Vertex → List Vertex} {seen pending affected : List Vertex}
  {room : ℕ} {start : Vertex}

theorem subset_spread : affected ⊆ spread successors room pending affected := by
  induction room generalizing pending affected with
  | zero => exact List.Subset.refl _
  | succ room hypothesis =>
    cases pending with
    | nil => exact List.Subset.refl _
    | cons vertex pending => exact List.Subset.trans (subset_append_left _ _) hypothesis

/-- With room for every vertex that has a predecessor, the vertices found are closed. -/
theorem spread_closed (targets : Finset Vertex) (distinct : ∀ vertex, (successors vertex).Nodup)
    (inside : ∀ vertex, ∀ next ∈ successors vertex, next ∈ targets)
    (enough : pending.length + (targets \ affected.toFinset).card ≤ room)
    (done : ∀ vertex ∈ affected, vertex ∈ pending ∨ successors vertex ⊆ affected) :
    ∀ vertex ∈ spread successors room pending affected,
      successors vertex ⊆ spread successors room pending affected := by
  have finished : ∀ affected : List Vertex, (∀ vertex ∈ affected, vertex ∈ ([] : List Vertex) ∨
      successors vertex ⊆ affected) → ∀ vertex ∈ affected, successors vertex ⊆ affected :=
    fun _ done vertex member => (done vertex member).resolve_left not_mem_nil
  induction room generalizing pending affected with
  | zero =>
    obtain ⟨nothing, -⟩ := Nat.eq_zero_of_add_eq_zero (Nat.le_zero.mp enough)
    obtain rfl := eq_nil_of_length_eq_zero nothing
    exact finished affected done
  | succ room hypothesis =>
    cases pending with
    | nil => exact finished affected done
    | cons vertex pending =>
      have fresh : ((successors vertex).filter (· ∉ affected)).Nodup := (distinct vertex).filter _
      refine hypothesis ?_ fun other member => ?_
      · have within : ((successors vertex).filter (· ∉ affected)).toFinset ⊆
            targets \ affected.toFinset := by
          intro next member
          rw [mem_toFinset, mem_filter, decide_eq_true_eq] at member
          rw [Finset.mem_sdiff, mem_toFinset]
          exact ⟨inside vertex next member.1, member.2⟩
        have counted := Finset.card_sdiff_add_card_eq_card within
        rw [toFinset_card_of_nodup fresh] at counted
        rw [length_cons] at enough
        rw [length_append, toFinset_append, ← Finset.sup_eq_union, ← sdiff_sdiff_left]
        omega
      · rcases mem_append.mp member with known | found
        · rcases done other known with waiting | expanded
          · rcases mem_cons.mp waiting with rfl | waiting
            · refine Or.inr fun next edge => mem_append.mpr ?_
              by_cases old : next ∈ affected
              · exact Or.inl old
              · exact Or.inr (mem_filter.mpr ⟨edge, decide_eq_true old⟩)
            · exact Or.inl (mem_append_left _ waiting)
          · exact Or.inr (List.Subset.trans expanded (subset_append_left _ _))
        · exact Or.inl (mem_append_right _ found)

/-! ### Vertices on cycles -/

/-- Visit a vertex and then its successors; a vertex is put in front of the order once the visit of
it ends. The depth bounds the visits that are open at a time. -/
def visit (successors : Vertex → List Vertex) :
    ℕ → List Vertex × List Vertex → Vertex → List Vertex × List Vertex
  | 0, state, _ => state
  | depth + 1, state, vertex =>
    if vertex ∈ state.1 then state
    else
      let after := (successors vertex).foldl (visit successors depth) (vertex :: state.1, state.2)
      (after.1, vertex :: after.2)

/-- The vertices, the one whose visit has ended last first. -/
def finished (successors : Vertex → List Vertex) (vertices : List Vertex) : List Vertex :=
  (vertices.foldl (visit successors (vertices.length + 1)) ([], [])).2

/-- Collect what leads to the vertices on a stack and has not been seen. -/
def flood (predecessors : Vertex → List Vertex) :
    ℕ → List Vertex → List Vertex → List Vertex → List Vertex × List Vertex
  | 0, _, seen, group => (group, seen)
  | _ + 1, [], seen, group => (group, seen)
  | room + 1, vertex :: stack, seen, group =>
    let found := (predecessors vertex).filter (· ∉ seen)
    flood predecessors room (found.reverse ++ stack) (seen ++ found) (group ++ [vertex])

/-- The groups of more than one vertex, and the vertices that lead to themselves. -/
def groups (successors predecessors : Vertex → List Vertex) (room : ℕ) :
    List Vertex → List Vertex → List (List Vertex)
  | [], _ => []
  | start :: rest, seen =>
    if start ∈ seen then groups successors predecessors room rest seen
    else
      let found := flood predecessors room [start] (start :: seen) []
      let later := groups successors predecessors room rest found.2
      if 1 < found.1.length ∨ start ∈ successors start then found.1 :: later else later

/-- What a visit leaves behind: it forgets nothing, and ends the visits that it begins. -/
structure Visits (before after : List Vertex × List Vertex) : Prop where
  seen : before.1 ⊆ after.1
  order : before.2 ⊆ after.2
  ended : ∀ vertex ∈ after.1, vertex ∈ before.1 ∨ vertex ∈ after.2

omit [DecidableEq Vertex] in
theorem Visits.trans {before between after : List Vertex × List Vertex}
    (first : Visits before between) (later : Visits between after) : Visits before after where
  seen := List.Subset.trans first.seen later.seen
  order := List.Subset.trans first.order later.order
  ended vertex member := (later.ended vertex member).elim
    (fun known => (first.ended vertex known).imp_right (@later.order vertex)) Or.inr

omit [DecidableEq Vertex] in
theorem Visits.refl (state : List Vertex × List Vertex) : Visits state state :=
  ⟨List.Subset.refl _, List.Subset.refl _, fun _ => Or.inl⟩

omit [DecidableEq Vertex] in
theorem foldl_visits {step : List Vertex × List Vertex → Vertex → List Vertex × List Vertex}
    (visits : ∀ state vertex, Visits state (step state vertex)) (vertices : List Vertex)
    (state : List Vertex × List Vertex) : Visits state (vertices.foldl step state) := by
  induction vertices generalizing state with
  | nil => exact .refl state
  | cons vertex rest hypothesis => exact (visits state vertex).trans (hypothesis _)

theorem visit_visits (depth : ℕ) (state : List Vertex × List Vertex) (vertex : Vertex) :
    Visits state (visit successors depth state vertex) := by
  induction depth generalizing state vertex with
  | zero => exact .refl state
  | succ depth hypothesis =>
    unfold visit
    split
    · exact .refl state
    · have inner := foldl_visits hypothesis (successors vertex) (vertex :: state.1, state.2)
      refine ⟨List.Subset.trans (subset_cons_self _ _) inner.seen,
        List.Subset.trans inner.order (subset_cons_self _ _), fun other member => ?_⟩
      rcases inner.ended other member with known | ended
      · rcases mem_cons.mp known with rfl | known
        · exact Or.inr mem_cons_self
        · exact Or.inl known
      · exact Or.inr (mem_cons_of_mem _ ended)

theorem mem_finished {vertices : List Vertex} {vertex : Vertex} (member : vertex ∈ vertices) :
    vertex ∈ finished successors vertices := by
  have visits : ∀ state vertex,
      Visits state (visit successors (vertices.length + 1) state vertex) := visit_visits _
  have reached : ∀ (rest : List Vertex) (state : List Vertex × List Vertex), vertex ∈ rest →
      vertex ∈ (rest.foldl (visit successors (vertices.length + 1)) state).1 := by
    intro rest
    induction rest with
    | nil => exact fun _ member => absurd member not_mem_nil
    | cons first rest hypothesis =>
      intro state member
      rcases mem_cons.mp member with rfl | later
      · refine (foldl_visits visits rest _).seen ?_
        unfold visit
        split
        · assumption
        · exact (foldl_visits (visit_visits _) _ _).seen mem_cons_self
      · exact hypothesis _ later
  have ended := (foldl_visits visits vertices ([], [])).ended vertex (reached vertices _ member)
  exact ended.resolve_left not_mem_nil

theorem length_le_flood {stack group : List Vertex} :
    group.length ≤ (flood predecessors room stack seen group).1.length := by
  induction room generalizing stack seen group with
  | zero => exact le_rfl
  | succ room hypothesis =>
    cases stack with
    | nil => exact le_rfl
    | cons vertex stack =>
      refine le_trans ?_ hypothesis
      rw [length_append]
      exact Nat.le_add_right _ _

/-- A vertex is found alone exactly if all that leads to it has been seen. -/
theorem flood_alone (visited : ∀ vertex ∈ predecessors start, vertex ∈ seen) :
    flood predecessors (room + 2) [start] seen [] = ([start], seen) := by
  have none : (predecessors start).filter (· ∉ seen) = [] :=
    filter_eq_nil_iff.mpr fun vertex member => by simpa using visited vertex member
  unfold flood
  rw [none]
  show flood predecessors (room + 1) [] (seen ++ []) [start] = _
  rw [append_nil]
  rfl

theorem flood_more {vertex : Vertex} (member : vertex ∈ predecessors start)
    (fresh : vertex ∉ seen) : 1 < (flood predecessors (room + 2) [start] seen []).1.length := by
  unfold flood
  cases found : ((predecessors start).filter (· ∉ seen)).reverse with
  | nil =>
    have unseen := filter_eq_nil_iff.mp (reverse_eq_nil_iff.mp found) vertex member
    exact absurd (decide_eq_true fresh) unseen
  | cons first rest =>
    dsimp only
    rw [found]
    show [start, first].length ≤ (flood predecessors room _ _ [start, first]).1.length
    exact length_le_flood

theorem groups_nil {rest : List Vertex}
    (none : groups successors predecessors (room + 2) (start :: rest) seen = []) :
    (start ∈ seen ∧ groups successors predecessors (room + 2) rest seen = []) ∨
      ((∀ vertex ∈ predecessors start, vertex ∈ start :: seen) ∧ start ∉ successors start ∧
        groups successors predecessors (room + 2) rest (start :: seen) = []) := by
  unfold groups at none
  split at none
  · exact Or.inl ⟨‹_›, none⟩
  by_cases visited : ∀ vertex ∈ predecessors start, vertex ∈ start :: seen
  · rw [flood_alone visited] at none
    dsimp only at none
    split at none
    · cases none
    · exact Or.inr ⟨visited, fun loop => ‹¬ _› (Or.inr loop), none⟩
  · push Not at visited
    obtain ⟨vertex, member, fresh⟩ := visited
    dsimp only at none
    rw [if_pos (Or.inl (flood_more member fresh))] at none
    cases none

/-- If no group is found, no vertices each have one of them leading to it. -/
theorem groups_cycle {starts : List Vertex} {cycle : Vertex → Prop}
    (loops : ∀ vertex, vertex ∈ predecessors vertex → vertex ∈ successors vertex)
    (leads : ∀ vertex, cycle vertex → ∃ before ∈ predecessors vertex, cycle before)
    (apart : ∀ vertex ∈ seen, ¬ cycle vertex)
    (none : groups successors predecessors (room + 2) starts seen = []) :
    ∀ vertex ∈ starts, ¬ cycle vertex := by
  induction starts generalizing seen with
  | nil => exact nofun
  | cons start rest hypothesis =>
    rcases groups_nil none with ⟨known, none⟩ | ⟨visited, alone, none⟩
    · exact forall_mem_cons.mpr ⟨apart start known, hypothesis apart none⟩
    · have outside : ¬ cycle start := by
        intro inside
        obtain ⟨before, edge, also⟩ := leads start inside
        rcases mem_cons.mp (visited before edge) with rfl | known
        · exact alone (loops before edge)
        · exact apart before known also
      exact forall_mem_cons.mpr
        ⟨outside, hypothesis (forall_mem_cons.mpr ⟨outside, apart⟩) none⟩

end Library
