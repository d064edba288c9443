/-
This file is a small library for two searches for one target, a recursion of bounded depth
and a loop with a stack, for the acyclicity that they protect, and for chains of parents.

Both searches may give up. If they answer that the target cannot be reached, the vertices they
have seen are closed under successors and do not contain it, so no path leads there. To climb
from a node is to list the node, its parent, and so on up to a node that has none; there is at
most one such chain, and no node stands on it twice.
-/

import Mathlib.Data.Finset.Card
import Mathlib.Data.List.Basic
import Mathlib.Data.List.Nodup
import Mathlib.Logic.Function.Basic
import Mathlib.Logic.Relation

namespace Library

open Function List

variable {Node : Type} {up : Node → Option Node}

/-- The nodes from one up to a node without a parent. -/
inductive Climbs (up : Node → Option Node) : Node → List Node → Prop
  | top {node : Node} (root : up node = none) : Climbs up node [node]
  | step {node parent : Node} {nodes : List Node} (found : up node = some parent)
      (climbs : Climbs up parent nodes) : Climbs up node (node :: nodes)

namespace Climbs

variable {node other parent child : Node} {nodes others above : List Node}

/-- A node has one chain. -/
theorem unique (climbs : Climbs up node nodes) (again : Climbs up node others) :
    nodes = others := by
  induction climbs generalizing others with
  | top root =>
    cases again with
    | top => rfl
    | step found =>
      cases root.symm.trans found
  | step found _ hypothesis =>
    cases again with
    | top root =>
      cases found.symm.trans root
    | step same rest =>
      cases found.symm.trans same
      rw [hypothesis rest]

/-- The chain of a node on a chain is the rest of it. -/
theorem rest (climbs : Climbs up node nodes) (member : other ∈ nodes) :
    ∃ front back, nodes = front ++ back ∧ Climbs up other back := by
  induction climbs with
  | top root =>
    rw [mem_singleton.mp member]
    exact ⟨[], _, rfl, .top root⟩
  | step found climbs hypothesis =>
    rcases mem_cons.mp member with same | later
    · rw [same]
      exact ⟨[], _, rfl, .step found climbs⟩
    · obtain ⟨front, back, split, rest⟩ := hypothesis later
      exact ⟨_ :: front, back, congrArg _ split, rest⟩

/-- No node stands on a chain twice. -/
theorem nodup (climbs : Climbs up node nodes) : nodes.Nodup := by
  induction climbs with
  | top => exact nodup_singleton _
  | @step node _ nodes found climbs hypothesis =>
    refine nodup_cons.mpr ⟨fun member => ?_, hypothesis⟩
    obtain ⟨front, back, split, rest⟩ := climbs.rest member
    have longer : nodes.length = front.length + (nodes.length + 1) := by
      conv_lhs => rw [split, rest.unique (.step found climbs)]
      exact length_append
    omega

variable [DecidableEq Node]

/-- A chain does not change with the parent of a node that is not on it. -/
theorem kept {value : Option Node} (climbs : Climbs up node nodes) (absent : child ∉ nodes) :
    Climbs (Function.update up child value) node nodes := by
  induction climbs with
  | top root =>
    refine .top ?_
    rw [update_of_ne (ne_of_not_mem_cons absent).symm, root]
  | step found _ hypothesis =>
    refine .step ?_ (hypothesis (not_mem_of_not_mem_cons absent))
    rw [update_of_ne (ne_of_not_mem_cons absent).symm, found]

/-- A chain that ended at a node goes on through the parent it is given. -/
theorem extended (climbs : Climbs up node nodes) (free : up child = none)
    (member : child ∈ nodes) (further : Climbs up parent above) (absent : child ∉ above) :
    Climbs (Function.update up child (some parent)) node (nodes ++ above) := by
  induction climbs with
  | top root =>
    rw [← mem_singleton.mp member]
    exact .step (update_self _ _ _) (further.kept absent)
  | @step node _ _ found _ hypothesis =>
    have different : node ≠ child := by
      rintro rfl
      cases free.symm.trans found
    refine .step ?_ (hypothesis ((mem_cons.mp member).resolve_left different.symm))
    rw [update_of_ne different, found]

end Climbs

open Relation

namespace DepthFirst

/-- Why a search ends without an answer. -/
inductive Interruption where
  /-- The stack is full. -/
  | exhausted
  /-- A vertex has no entry in the graph. -/
  | missing

variable {Vertex : Type}

/-- Search from one vertex after another until one of them reaches the target. -/
def anyReaches (reaches : Vertex → List Vertex → Except Interruption (Bool × List Vertex)) :
    List Vertex → List Vertex → Except Interruption (Bool × List Vertex)
  | [], seen => .ok (false, seen)
  | vertex :: rest, seen =>
    match reaches vertex seen with
    | .error failure => .error failure
    | .ok (true, visited) => .ok (true, visited)
    | .ok (false, visited) => anyReaches reaches rest visited

/-- Whether the target can be reached from a vertex, and what has been visited, on a stack with that
many frames left. -/
def reaches [DecidableEq Vertex] (successors : Vertex → Option (List Vertex)) (target : Vertex) :
    ℕ → Vertex → List Vertex → Except Interruption (Bool × List Vertex)
  | 0, _, _ => .error .exhausted
  | depth + 1, current, seen =>
    if current = target then .ok (true, seen)
    else if current ∈ seen then .ok (false, seen)
    else
      match successors current with
      | none => .error .missing
      | some nexts => anyReaches (reaches successors target depth) nexts (current :: seen)

variable {successors : Vertex → Option (List Vertex)} {target : Vertex}

/-- There is an edge from one vertex to another. -/
def Edge (successors : Vertex → Option (List Vertex)) (source destination : Vertex) : Prop :=
  ∃ nexts, successors source = some nexts ∧ destination ∈ nexts

/-! ### A search that finds the target -/

variable {search : Vertex → List Vertex → Except Interruption (Bool × List Vertex)}

variable {seen visited : List Vertex}

theorem anyReaches_true {vertices : List Vertex}
    (found : anyReaches search vertices seen = .ok (true, visited)) :
    ∃ vertex ∈ vertices, ∃ before, search vertex before = .ok (true, visited) := by
  induction vertices generalizing seen with
  | nil => cases found
  | cons vertex rest hypothesis =>
    unfold anyReaches at found
    rcases outcome : search vertex seen with failure | ⟨_ | _, between⟩ <;>
      simp only [outcome] at found
    · cases found
    · obtain ⟨other, member, before, searched⟩ := hypothesis found
      exact ⟨other, mem_cons_of_mem vertex member, before, searched⟩
    · cases found
      exact ⟨vertex, mem_cons_self, seen, outcome⟩

variable {depth : ℕ} {current : Vertex}

/-- What the search finds is there. -/
theorem reaches_sound [DecidableEq Vertex]
    (found : reaches successors target depth current seen = .ok (true, visited)) :
    ReflTransGen (Edge successors) current target := by
  induction depth generalizing current seen visited with
  | zero => cases found
  | succ depth hypothesis =>
    unfold reaches at found
    split at found
    · rename_i arrived
      rw [arrived]
    · split at found
      · cases found
      · split at found
        · cases found
        · rename_i nexts present
          obtain ⟨vertex, member, before, searched⟩ := anyReaches_true found
          exact (hypothesis searched).head ⟨nexts, present, member⟩

/-! ### A search that does not find it -/

/-- What a search that does not find the target leaves behind: it has visited its start, not the
target, and all successors of what it has newly visited. -/
structure Explored (successors : Vertex → Option (List Vertex)) (target : Vertex)
    (starts seen visited : List Vertex) : Prop where
  grown : seen ⊆ visited
  started : starts ⊆ visited
  avoided : target ∉ seen → target ∉ visited
  expanded : ∀ vertex ∈ visited, vertex ∈ seen ∨
    ∃ nexts, successors vertex = some nexts ∧ nexts ⊆ visited

theorem anyReaches_false
    (explores : ∀ vertex seen visited, search vertex seen = .ok (false, visited) →
      Explored successors target [vertex] seen visited) {vertices : List Vertex}
    (searched : anyReaches search vertices seen = .ok (false, visited)) :
    Explored successors target vertices seen visited := by
  induction vertices generalizing seen with
  | nil =>
    cases searched
    exact ⟨List.Subset.refl _, nil_subset _, id, fun vertex member => Or.inl member⟩
  | cons vertex rest hypothesis =>
    unfold anyReaches at searched
    rcases outcome : search vertex seen with failure | ⟨_ | _, between⟩ <;>
      simp only [outcome] at searched
    · cases searched
    · have first := explores vertex seen between outcome
      have later := hypothesis searched
      refine ⟨List.Subset.trans first.grown later.grown, ?_,
        fun unseen => later.avoided (first.avoided unseen), fun other member => ?_⟩
      · exact cons_subset.mpr ⟨later.grown (first.started mem_cons_self), later.started⟩
      · rcases later.expanded other member with known | expanded
        · rcases first.expanded other known with old | ⟨nexts, present, inside⟩
          · exact .inl old
          · exact .inr ⟨nexts, present, List.Subset.trans inside later.grown⟩
        · exact .inr expanded
    · cases searched

theorem reaches_false [DecidableEq Vertex]
    (searched : reaches successors target depth current seen = .ok (false, visited)) :
    Explored successors target [current] seen visited := by
  induction depth generalizing current seen visited with
  | zero => cases searched
  | succ depth hypothesis =>
    unfold reaches at searched
    split at searched
    · cases searched
    · rename_i differs
      split at searched
      · rename_i known
        cases searched
        exact ⟨List.Subset.refl _, cons_subset.mpr ⟨known, nil_subset _⟩, id,
          fun vertex member => Or.inl member⟩
      · split at searched
        · cases searched
        · rename_i nexts present
          have below := anyReaches_false (fun _ _ _ outcome => hypothesis outcome) searched
          refine ⟨fun vertex member => below.grown (mem_cons_of_mem current member),
            cons_subset.mpr ⟨below.grown mem_cons_self, nil_subset _⟩,
            fun unseen => below.avoided ?_, fun vertex member => ?_⟩
          · intro member
            rcases mem_cons.mp member with same | old
            · exact differs same.symm
            · exact unseen old
          · rcases below.expanded vertex member with known | expanded
            · rcases mem_cons.mp known with rfl | old
              · exact .inr ⟨nexts, present, below.started⟩
              · exact .inl old
            · exact .inr expanded

/-- The search that starts without any visited vertex finds whatever is there. -/
theorem reaches_complete [DecidableEq Vertex]
    (searched : reaches successors target depth current [] = .ok (false, visited)) :
    ¬ ReflTransGen (Edge successors) current target := by
  have explored := reaches_false searched
  intro path
  have inside : ∀ vertex, ReflTransGen (Edge successors) current vertex → vertex ∈ visited := by
    intro vertex walk
    induction walk with
    | refl => exact explored.started mem_cons_self
    | tail before edge hypothesis =>
      obtain ⟨nexts, present, member⟩ := edge
      rcases explored.expanded _ hypothesis with none | ⟨others, found, closed⟩
      · cases none
      · cases present.symm.trans found
        exact closed member
  exact explored.avoided not_mem_nil (inside target path)

/-! ### A search on a finite graph ends -/

/-- Every vertex has an entry, and no entry leads out of the graph except to the target. -/
def Closed (successors : Vertex → Option (List Vertex)) (target : Vertex)
    (vertices : Finset Vertex) : Prop :=
  ∀ vertex ∈ vertices, vertex ≠ target →
    ∃ nexts, successors vertex = some nexts ∧ ∀ next ∈ nexts, next = target ∨ next ∈ vertices

/-- The search answers, and has visited nothing twice and nothing outside of the graph. -/
structure Answers (vertices : Finset Vertex) (seen : List Vertex)
    (outcome : Except Interruption (Bool × List Vertex)) : Prop where
  answered : ∃ found visited, outcome = .ok (found, visited) ∧ visited.Nodup ∧
    (∀ vertex ∈ visited, vertex ∈ vertices) ∧ seen.length ≤ visited.length

variable {vertices : Finset Vertex}

theorem anyReaches_answers
    (answers : ∀ vertex seen, vertex = target ∨ vertex ∈ vertices → seen.Nodup →
      (∀ other ∈ seen, other ∈ vertices) → vertices.card < depth + seen.length →
      Answers vertices seen (search vertex seen)) {starts : List Vertex}
    (inside : ∀ vertex ∈ starts, vertex = target ∨ vertex ∈ vertices) (unique : seen.Nodup)
    (bounded : ∀ other ∈ seen, other ∈ vertices) (deep : vertices.card < depth + seen.length) :
    Answers vertices seen (anyReaches search starts seen) := by
  induction starts generalizing seen with
  | nil => exact ⟨⟨false, seen, rfl, unique, bounded, Nat.le_refl _⟩⟩
  | cons vertex rest hypothesis =>
    obtain ⟨found, visited, outcome, visitedUnique, visitedBounded, longer⟩ :=
      (answers vertex seen (inside vertex mem_cons_self) unique bounded deep).answered
    unfold anyReaches
    rw [outcome]
    cases found with
    | true => exact ⟨⟨true, visited, rfl, visitedUnique, visitedBounded, longer⟩⟩
    | false =>
      obtain ⟨answered⟩ := hypothesis
        (fun other member => inside other (mem_cons_of_mem vertex member)) visitedUnique
        visitedBounded (by omega)
      obtain ⟨last, reached, equal, reachedUnique, reachedBounded, more⟩ := answered
      exact ⟨⟨last, reached, equal, reachedUnique, reachedBounded, longer.trans more⟩⟩

/-- A stack that is deep enough for the vertices not yet visited is never exhausted. -/
theorem reaches_answers [DecidableEq Vertex] (closed : Closed successors target vertices)
    (inside : current = target ∨ current ∈ vertices) (unique : seen.Nodup)
    (bounded : ∀ other ∈ seen, other ∈ vertices) (deep : vertices.card < depth + seen.length) :
    Answers vertices seen (reaches successors target depth current seen) := by
  induction depth generalizing current seen with
  | zero =>
    have short : seen.length ≤ vertices.card := by
      rw [← toFinset_card_of_nodup unique]
      exact Finset.card_le_card fun vertex member => bounded vertex (mem_toFinset.mp member)
    omega
  | succ depth hypothesis =>
    unfold reaches
    by_cases arrived : current = target
    · rw [if_pos arrived]
      exact ⟨⟨true, seen, rfl, unique, bounded, Nat.le_refl _⟩⟩
    · rw [if_neg arrived]
      by_cases known : current ∈ seen
      · rw [if_pos known]
        exact ⟨⟨false, seen, rfl, unique, bounded, Nat.le_refl _⟩⟩
      · rw [if_neg known]
        have member := inside.resolve_left arrived
        obtain ⟨nexts, present, within⟩ := closed current member arrived
        rw [present]
        obtain ⟨found, visited, outcome, visitedUnique, visitedBounded, longer⟩ :=
          (anyReaches_answers (fun vertex others inside unique bounded deep =>
              hypothesis inside unique bounded deep) within
            (nodup_cons.mpr ⟨known, unique⟩)
            (fun other here => (mem_cons.mp here).elim (fun same => same ▸ member)
              (bounded other))
            (by rw [length_cons]; omega)).answered
        rw [length_cons] at longer
        exact ⟨⟨found, visited, outcome, visitedUnique, visitedBounded, by omega⟩⟩

end DepthFirst

/-! ### Acyclicity -/

/-- No vertex reaches itself along at least one edge. -/
def Acyclic {Vertex : Type} (edge : Vertex → Vertex → Prop) : Prop :=
  ∀ vertex, ¬ TransGen edge vertex vertex

namespace Acyclic

variable {Vertex : Type} {edge changed : Vertex → Vertex → Prop} {source : Vertex}

/-- A way to the source of the changed edges needs none of them. -/
theorem unchanged_path (others : ∀ {first second}, changed first second → first ≠ source →
    edge first second) {vertex : Vertex} (path : ReflTransGen changed vertex source) :
    ReflTransGen edge vertex source := by
  induction path using ReflTransGen.head_induction_on with
  | refl => exact .refl
  | @head first second step path hypothesis =>
    by_cases same : first = source
    · rw [same]
    · exact hypothesis.head (others step same)

/-- The edges out of one vertex may be replaced, if none of the new ones leads to a vertex from
which there is a way back. -/
theorem replace (acyclic : Acyclic edge)
    (others : ∀ {first second}, changed first second → first ≠ source → edge first second)
    (safe : ∀ {second}, changed source second → ¬ ReflTransGen edge second source) :
    Acyclic changed := by
  have separate : ∀ first second, TransGen changed first second →
      TransGen edge first second ∨ ∃ next, changed source next ∧
        ReflTransGen changed first source ∧ ReflTransGen changed next second := by
    intro first second path
    induction path with
    | @single next step =>
      by_cases same : first = source
      · subst same
        exact .inr ⟨next, step, .refl, .refl⟩
      · exact .inl (.single (others step same))
    | @tail middle next before step hypothesis =>
      rcases hypothesis with old | ⟨start, entered, arrived, left⟩
      · by_cases same : middle = source
        · subst same
          exact .inr ⟨next, step, before.to_reflTransGen, .refl⟩
        · exact .inl (old.tail (others step same))
      · exact .inr ⟨start, entered, arrived, left.tail step⟩
  intro vertex cycle
  rcases separate vertex vertex cycle with old | ⟨next, entered, arrived, left⟩
  · exact acyclic vertex old
  · exact safe entered (unchanged_path others (left.trans arrived))

end Acyclic

namespace StackSearch

variable {Vertex : Type}

/-- What a search answers. -/
inductive Outcome where
  | reached
  | unreached
  /-- There is no room for another vertex, or for the successors of one. -/
  | limited

/-- What is found on the stack once vertices that were seen are taken off it. -/
inductive Top (Vertex : Type) where
  | target
  | empty
  | fresh (vertex : Vertex) (rest : List Vertex)

variable [DecidableEq Vertex]

/-- Take vertices off the stack up to the first new one. -/
def top (target : Vertex) (seen : List Vertex) : List Vertex → Top Vertex
  | [] => .empty
  | vertex :: rest =>
    if vertex = target then .target
    else if vertex ∈ seen then top target seen rest
    else .fresh vertex rest

/-- Search for a target from the vertices on a stack. The room bounds the vertices seen, `width` the
successors of one. -/
def search (successors : Vertex → List Vertex) (width : ℕ) (target : Vertex) :
    ℕ → List Vertex → List Vertex → Outcome
  | 0, pending, seen =>
    match top target seen pending with
    | .target => .reached
    | .empty => .unreached
    | .fresh .. => .limited
  | room + 1, pending, seen =>
    match top target seen pending with
    | .target => .reached
    | .empty => .unreached
    | .fresh vertex rest =>
      if width < (successors vertex).length then .limited
      else
        search successors width target room ((successors vertex).reverse ++ rest) (vertex :: seen)

variable {successors : Vertex → List Vertex} {width : ℕ} {target : Vertex}

variable {seen pending : List Vertex}

theorem top_empty (emptied : top target seen pending = .empty) :
    ∀ vertex ∈ pending, vertex ∈ seen := by
  induction pending with
  | nil => exact nofun
  | cons first rest hypothesis =>
    unfold top at emptied
    by_cases same : first = target
    · rw [if_pos same] at emptied
      cases emptied
    rw [if_neg same] at emptied
    by_cases known : first ∈ seen
    · rw [if_pos known] at emptied
      intro vertex member
      rcases mem_cons.mp member with rfl | later
      · exact known
      · exact hypothesis emptied vertex later
    · rw [if_neg known] at emptied
      cases emptied

variable {vertex : Vertex}

theorem top_fresh {rest : List Vertex} (found : top target seen pending = .fresh vertex rest) :
    vertex ≠ target ∧ ∀ other ∈ pending, other ∈ seen ∨ other = vertex ∨ other ∈ rest := by
  induction pending with
  | nil => cases found
  | cons first others hypothesis =>
    unfold top at found
    by_cases same : first = target
    · rw [if_pos same] at found
      cases found
    rw [if_neg same] at found
    by_cases known : first ∈ seen
    · rw [if_pos known] at found
      obtain ⟨differs, split⟩ := hypothesis found
      refine ⟨differs, fun other member => ?_⟩
      rcases mem_cons.mp member with rfl | later
      · exact .inl known
      · exact split other later
    · rw [if_neg known] at found
      cases found
      refine ⟨same, fun other member => ?_⟩
      rcases mem_cons.mp member with rfl | later
      · exact .inr (.inl rfl)
      · exact .inr (.inr later)

/-- The successors of what was seen were seen or are on the stack, and the target was not seen. -/
def Covers (successors : Vertex → List Vertex) (target : Vertex) (seen pending : List Vertex) :
    Prop :=
  ∀ vertex ∈ seen, vertex ≠ target ∧ ∀ next ∈ successors vertex, next ∈ seen ∨ next ∈ pending

omit [DecidableEq Vertex] in
theorem not_reaches_of_closed (closed : Vertex → Prop) (outside : ¬ closed target)
    (step : ∀ vertex, closed vertex → ∀ next ∈ successors vertex, closed next)
    (inside : closed vertex) :
    ¬ ReflTransGen (fun source destination => destination ∈ successors source) vertex target := by
  have reaches : ∀ last, ReflTransGen (fun source destination =>
      destination ∈ successors source) vertex last → closed last := by
    intro last path
    induction path with
    | refl => exact inside
    | tail _ edge hypothesis => exact step _ hypothesis _ edge
  exact fun path => outside (reaches target path)

/-- If the target was not reached, there is no path to it from the stack. -/
theorem search_unreached {room : ℕ} (covers : Covers successors target seen pending)
    (outcome : search successors width target room pending seen = .unreached) :
    ∀ vertex ∈ pending,
      ¬ ReflTransGen (fun source destination => destination ∈ successors source) vertex target := by
  have done : ∀ {pending seen : List Vertex}, Covers successors target seen pending →
      top target seen pending = .empty → ∀ vertex, vertex ∈ seen ∨ vertex ∈ pending →
      ¬ ReflTransGen (fun source destination => destination ∈ successors source) vertex target := by
    intro pending seen covers emptied vertex inside
    have known := top_empty emptied
    refine not_reaches_of_closed (· ∈ seen) (fun member => (covers _ member).1 rfl)
      (fun source member next edge => ?_) (inside.elim id (known vertex))
    exact ((covers source member).2 next edge).elim id (known next)
  suffices reaches : ∀ vertex, vertex ∈ seen ∨ vertex ∈ pending →
      ¬ ReflTransGen (fun source destination => destination ∈ successors source) vertex target from
    fun vertex member => reaches vertex (.inr member)
  induction room generalizing pending seen with
  | zero =>
    unfold search at outcome
    cases found : top target seen pending with
    | target =>
      rw [found] at outcome
      cases outcome
    | empty => exact done covers found
    | fresh =>
      rw [found] at outcome
      cases outcome
  | succ room hypothesis =>
    unfold search at outcome
    cases found : top target seen pending with
    | target =>
      rw [found] at outcome
      cases outcome
    | empty => exact done covers found
    | fresh vertex rest =>
      rw [found] at outcome
      dsimp only at outcome
      by_cases wide : width < (successors vertex).length
      · rw [if_pos wide] at outcome
        cases outcome
      rw [if_neg wide] at outcome
      obtain ⟨differs, split⟩ := top_fresh found
      have wider : Covers successors target (vertex :: seen)
          ((successors vertex).reverse ++ rest) := by
        intro source member
        rcases mem_cons.mp member with rfl | old
        · refine ⟨differs, fun next edge => Or.inr ?_⟩
          exact mem_append_left _ (mem_reverse.mpr edge)
        · refine ⟨(covers source old).1, fun next edge => ?_⟩
          rcases (covers source old).2 next edge with known | waiting
          · exact .inl (mem_cons_of_mem _ known)
          · rcases split next waiting with known | rfl | later
            · exact .inl (mem_cons_of_mem _ known)
            · exact .inl mem_cons_self
            · exact .inr (mem_append_right _ later)
      intro other inside
      refine hypothesis wider outcome other ?_
      rcases inside with known | waiting
      · exact .inl (mem_cons_of_mem _ known)
      · rcases split other waiting with known | rfl | later
        · exact .inl (mem_cons_of_mem _ known)
        · exact .inl mem_cons_self
        · exact .inr (mem_append_right _ later)

end StackSearch

end Library
