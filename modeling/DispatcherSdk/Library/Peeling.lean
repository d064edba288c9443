/-
This file is a small library for taking away the vertices of a directed graph, each once
nothing that it needs is left.

A count is kept of what each vertex still needs, and a vertex is ready when its count comes to
zero. Whichever ready vertex is taken first, all are taken away in the end exactly if none needs
itself, directly or through others.
-/

import Mathlib.Data.Fintype.Card
import Mathlib.Data.Fintype.EquivFin
import Mathlib.Logic.Relation

namespace Library

open Relation List

variable {Vertex : Type} [DecidableEq Vertex]

/-! ### The search -/

/-- A need of the child has been taken away. -/
def release (state : (Vertex → ℕ) × List Vertex) (child : Vertex) : (Vertex → ℕ) × List Vertex :=
  (Function.update state.1 child (state.1 child - 1),
    if state.1 child - 1 = 0 then state.2 ++ [child] else state.2)

/-- Take ready vertices away, with those that become ready. The last one taken comes first. -/
def peel (pop : List Vertex → Option (Vertex × List Vertex)) (vertices : List Vertex)
    (needs : Vertex → List Vertex) :
    ℕ → (Vertex → ℕ) × List Vertex → List Vertex → List Vertex
  | 0, _, taken => taken
  | room + 1, (counts, ready), taken =>
    match pop ready with
    | none => taken
    | some (vertex, rest) =>
      peel pop vertices needs room
        ((vertices.filter fun child => vertex ∈ needs child).foldl release (counts, rest))
        (vertex :: taken)

/-- The counts and the ready vertices in the beginning. -/
def unpeeled (vertices : List Vertex) (needs : Vertex → List Vertex) : (Vertex → ℕ) × List Vertex :=
  (fun vertex => (needs vertex).length, vertices.filter fun vertex => (needs vertex).length = 0)

/-- The way in which a ready vertex is chosen. -/
structure Pops (pop : List Vertex → Option (Vertex × List Vertex)) : Prop where
  none : ∀ {ready}, pop ready = none → ready = []
  some : ∀ {ready vertex rest}, pop ready = some (vertex, rest) → ready ~ vertex :: rest

/-- Everything in the list is in front of what it needs. -/
def Ordered (needs : Vertex → List Vertex) : List Vertex → Prop
  | [] => True
  | vertex :: rest => needs vertex ⊆ rest ∧ Ordered needs rest

/-- What holds while vertices are taken away. -/
structure Peeling (vertices : List Vertex) (needs : Vertex → List Vertex) (counts : Vertex → ℕ)
    (ready taken : List Vertex) : Prop where
  counted : ∀ vertex ∈ vertices,
    counts vertex = ((needs vertex).toFinset \ taken.toFinset).card
  free : ∀ vertex, vertex ∈ ready ++ taken ↔ vertex ∈ vertices ∧ needs vertex ⊆ taken
  once : (ready ++ taken).Nodup
  ordered : Ordered needs taken

variable {pop : List Vertex → Option (Vertex × List Vertex)} {needs : Vertex → List Vertex}
  {vertices ready rest taken : List Vertex} {counts : Vertex → ℕ} {vertex : Vertex} {room : ℕ}

theorem foldl_release {children : List Vertex} (once : children.Nodup) :
    children.foldl release (counts, ready) =
      (fun child => if child ∈ children then counts child - 1 else counts child,
        ready ++ children.filter fun child => counts child - 1 = 0) := by
  induction children generalizing counts ready with
  | nil => simp
  | cons child others hypothesis =>
    obtain ⟨apart, once⟩ := nodup_cons.mp once
    rw [foldl_cons, release, hypothesis once]
    refine Prod.ext (funext fun other => ?_) ?_
    · by_cases same : other = child
      · simp [same, apart]
      · simp [same]
    · have kept : (others.filter fun other =>
          Function.update counts child (counts child - 1) other - 1 = 0) =
          others.filter fun other => counts other - 1 = 0 := by
        refine filter_congr fun other member => ?_
        rw [Function.update_of_ne (ne_of_mem_of_not_mem member apart)]
      dsimp only
      rw [kept, filter_cons]
      by_cases last : counts child - 1 = 0 <;> simp [last]

theorem left_eq_zero {list : List Vertex} :
    (list.toFinset \ taken.toFinset).card = 0 ↔ list ⊆ taken := by
  rw [Finset.card_eq_zero, Finset.sdiff_eq_empty_iff_subset]
  simp [Finset.subset_iff, List.subset_def]

theorem Peeling.start (once : vertices.Nodup) (distinct : ∀ vertex, (needs vertex).Nodup) :
    Peeling vertices needs (unpeeled vertices needs).1 (unpeeled vertices needs).2 [] := by
  refine ⟨fun vertex _ => ?_, fun vertex => ?_, ?_, trivial⟩
  · simp [unpeeled, toFinset_card_of_nodup (distinct vertex)]
  · simp [unpeeled, subset_nil]
  · simpa [unpeeled] using once.filter _

theorem Peeling.take (peeling : Peeling vertices needs counts ready taken) (once : vertices.Nodup)
    (popped : ready ~ vertex :: rest) :
    Peeling vertices needs
      ((vertices.filter fun child => vertex ∈ needs child).foldl release (counts, rest)).1
      ((vertices.filter fun child => vertex ∈ needs child).foldl release (counts, rest)).2
      (vertex :: taken) := by
  have left : vertex ∉ taken := fun also =>
    (nodup_append.mp peeling.once).2.2 vertex (popped.mem_iff.mpr mem_cons_self) vertex also rfl
  have counted : ∀ child ∈ vertices,
      (if child ∈ vertices.filter (fun child => vertex ∈ needs child) then counts child - 1
        else counts child) = ((needs child).toFinset \ (vertex :: taken).toFinset).card := by
    intro child known
    rw [peeling.counted child known, toFinset_cons, Finset.sdiff_insert]
    by_cases need : vertex ∈ needs child
    · rw [if_pos (by simp [known, need]), Finset.card_erase_of_mem (by simp [need, left])]
    · rw [if_neg (by simp [need]), Finset.erase_eq_of_notMem (by simp [need])]
  -- a child that becomes ready has just lost its last need
  have released : ∀ child, child ∈ (vertices.filter fun child => vertex ∈ needs child).filter
      (fun child => counts child - 1 = 0) ↔
        child ∈ vertices ∧ vertex ∈ needs child ∧ needs child ⊆ vertex :: taken := by
    intro child
    simp only [mem_filter, decide_eq_true_eq, and_assoc]
    refine and_congr_right fun known => and_congr_right fun need => ?_
    rw [← left_eq_zero, ← counted child known, if_pos (by simp [known, need])]
  rw [foldl_release (once.filter _)]
  have single := (once.filter fun child => decide (vertex ∈ needs child)).filter
    fun child => decide (counts child - 1 = 0)
  generalize (vertices.filter fun child => vertex ∈ needs child).filter
    (fun child => counts child - 1 = 0) = fresh at released single
  have perm : (rest ++ fresh) ++ vertex :: taken ~ fresh ++ (ready ++ taken) := by
    refine perm_iff_count.mpr fun other => ?_
    have same := popped.count_eq other
    simp only [count_append, count_cons] at same ⊢
    omega
  have met := (peeling.free vertex).mp (mem_append_left _ (popped.mem_iff.mpr mem_cons_self))
  refine ⟨counted, fun child => ?_,
    perm.nodup_iff.mpr (nodup_append'.mpr ⟨single, peeling.once, ?_⟩), met.2, peeling.ordered⟩
  · rw [perm.mem_iff, mem_append, released, peeling.free]
    constructor
    · rintro (⟨known, -, all⟩ | ⟨known, all⟩)
      · exact ⟨known, all⟩
      · exact ⟨known, List.Subset.trans all (subset_cons_self _ _)⟩
    · rintro ⟨known, all⟩
      by_cases need : vertex ∈ needs child
      · exact .inl ⟨known, need, all⟩
      · exact .inr ⟨known, fun other here =>
          (mem_cons.mp (all here)).resolve_left fun same => need (same ▸ here)⟩
  · intro child here there
    exact left (((peeling.free child).mp there).2 ((released child).mp here).2.1)

/-- With room for every vertex no ready one is left in the end. -/
theorem Peeling.run (peeling : Peeling vertices needs counts ready taken) (once : vertices.Nodup)
    (pops : Pops pop) (enough : vertices.length ≤ taken.length + room) :
    ∃ last, Peeling vertices needs last []
      (peel pop vertices needs room (counts, ready) taken) := by
  induction room generalizing counts ready taken with
  | zero =>
    have inside : ready ++ taken ⊆ vertices := fun vertex member =>
      ((peeling.free vertex).mp member).1
    have bounded := (peeling.once.subperm inside).length_le
    rw [length_append] at bounded
    obtain rfl : ready = [] := eq_nil_of_length_eq_zero (by omega)
    exact ⟨counts, peeling⟩
  | succ room hypothesis =>
    cases popped : pop ready with
    | none =>
      obtain rfl := pops.none popped
      exact ⟨counts, by simpa [peel, popped] using peeling⟩
    | some next =>
      simp only [peel, popped]
      exact hypothesis (peeling.take once (pops.some popped)) (by rw [length_cons]; omega)

/-! ### Cycles -/

omit [DecidableEq Vertex] in
theorem Ordered.behind {front : List Vertex} (ordered : Ordered needs (front ++ vertex :: rest)) :
    needs vertex ⊆ rest := by
  induction front with
  | nil => exact ordered.1
  | cons first front hypothesis => exact hypothesis ordered.2

omit [DecidableEq Vertex] in
theorem Ordered.accessible (ordered : Ordered needs taken) :
    ∀ vertex ∈ taken, Acc (fun need vertex => need ∈ needs vertex) vertex := by
  induction taken with
  | nil => exact fun _ member => absurd member not_mem_nil
  | cons first rest hypothesis =>
    have later := hypothesis ordered.2
    exact forall_mem_cons.mpr ⟨.intro first fun need here => later need (ordered.1 here), later⟩

/-- All vertices are taken away exactly if none needs itself. -/
theorem Peeling.acyclic_iff (peeling : Peeling vertices needs counts [] taken)
    (once : vertices.Nodup) (inside : ∀ vertex ∈ vertices, needs vertex ⊆ vertices) :
    taken.length = vertices.length ↔
      ∀ vertex ∈ vertices, ¬ TransGen (fun need vertex => need ∈ needs vertex) vertex vertex := by
  have within := peeling.once.subperm fun vertex member => ((peeling.free vertex).mp member).1
  constructor
  · intro equal vertex known
    have accessible := (peeling.ordered.accessible vertex
      ((within.perm_of_length_le equal.ge).mem_iff.mpr known)).transGen
    clear known
    induction accessible with
    | intro vertex _ hypothesis => exact fun round => hypothesis vertex round round
  · intro acyclic
    let before (left right : { vertex // vertex ∈ vertices }) : Prop :=
      TransGen (fun need vertex => need ∈ needs vertex) left.1 right.1
    have : IsTrans _ before := ⟨fun _ _ _ => TransGen.trans⟩
    have : Std.Irrefl before := ⟨fun vertex => acyclic vertex.1 vertex.2⟩
    have all : ∀ vertex : { vertex // vertex ∈ vertices }, vertex.1 ∈ taken := fun vertex =>
      (Finite.wellFounded_of_trans_of_irrefl before).induction vertex fun vertex hypothesis =>
        (peeling.free vertex.1).mpr ⟨vertex.2, fun need here =>
          hypothesis ⟨need, inside vertex.1 vertex.2 here⟩ (.single here)⟩
    exact le_antisymm within.length_le
      (once.subperm fun vertex known => all ⟨vertex, known⟩).length_le

end Library
