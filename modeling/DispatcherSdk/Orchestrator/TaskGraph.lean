/-
This file models the two places that check a graph of tasks: `RunSpec`, and
`_topological_commands`, which gives the order in which `register_managed_run` adds tasks.

One takes ready tasks from a stack, the other from a heap. Both are instances of one search,
and so they accept the same graphs: those without a cycle.
-/

import DispatcherSdk.Library.Searches
import DispatcherSdk.Library.Peeling
import DispatcherSdk.Orchestrator.AdvancementRuns

namespace DispatcherSdk.Orchestrator

open Library Library.Checked Relation List
open ExecutionKernel hiding ExecutionRow OutboxRow EventRow Operation

/-! ### Graphs of names -/

/-- The dictionary from the names of tasks to their dependencies. -/
abbrev TaskNeeds := List (String × List String)

namespace TaskNeeds

def names (graph : TaskNeeds) : List String := graph.map Prod.fst

def needs (graph : TaskNeeds) (name : String) : List String :=
  ((graph.find? fun entry => entry.1 = name).map Prod.snd).getD []

def Precedes (graph : TaskNeeds) (need name : String) : Prop :=
  ∃ needs, (name, needs) ∈ graph ∧ need ∈ needs

/-- Names and dependencies are given once, and every dependency has a name. -/
structure Declared (graph : TaskNeeds) : Prop where
  once : graph.names.Nodup
  distinct : ∀ entry ∈ graph, entry.2.Nodup
  known : ∀ entry ∈ graph, entry.2 ⊆ graph.names

/-- The names in the order in which they are taken, the last one first. -/
def taken (pop : List String → Option (String × List String)) (graph : TaskNeeds) : List String :=
  peel pop graph.names graph.needs graph.length (unpeeled graph.names graph.needs) []

end TaskNeeds

/-- `list.pop`. -/
def popLast (ready : List String) : Option (String × List String) :=
  ready.getLast?.map fun last => (last, ready.dropLast)

/-- `heapq.heappop`. -/
def popLeast (ready : List String) : Option (String × List String) :=
  (ready.insertionSort (· ≤ ·)).head?.map fun least => (least, ready.erase least)

/-! ### `RunSpec` -/

/-- `TaskSpec`, as far as the graph depends on it. -/
structure TaskSpec where
  taskId : Identifier
  dependencies : List String
  filled : ∀ dependency ∈ dependencies, blank dependency = false
  distinct : dependencies.Nodup
  other : taskId.text ∉ dependencies

def specGraph (tasks : List TaskSpec) : TaskNeeds :=
  tasks.map fun task => (task.taskId.text, task.dependencies)

inductive ManagedContractError where
  | message (text : String)
  | unknownDependencies (taskId : Identifier) (unknown : List String)

def checkKnown (taskIds : List String) (task : TaskSpec) : Except ManagedContractError Unit :=
  check (∀ dependency ∈ task.dependencies, dependency ∈ taskIds)
    (.unknownDependencies task.taskId (task.dependencies.filter (· ∉ taskIds)))

/-- `_validate_acyclic`. -/
def validateAcyclic (tasks : List TaskSpec) : Except ManagedContractError Unit :=
  check (((specGraph tasks).taken popLast).length = tasks.length)
    (.message "task dependencies must be acyclic")

def sortedTasks (tasks : List TaskSpec) : List TaskSpec :=
  tasks.insertionSort fun left right => left.taskId.text ≤ right.taskId.text

/-- `RunSpec.__post_init__` on the tasks. -/
def runSpecTasks (tasks : List TaskSpec) : Except ManagedContractError (List TaskSpec) := do
  check (tasks ≠ []) (.message "tasks must be a non-empty list or tuple of TaskSpec")
  let sorted := sortedTasks tasks
  let taskIds := (specGraph sorted).names
  check taskIds.Nodup (.message "task identifiers must be unique")
  sorted.forM (checkKnown taskIds)
  validateAcyclic sorted
  return sorted

/-! ### `_topological_commands` -/

abbrev ManagedTask.name (item : ManagedTask) : String := item.taskId.text

def commandGraph (commands : List ManagedTask) : TaskNeeds :=
  commands.map fun item => (item.name, item.dependencies)

/-- The dependencies are sorted in place. -/
def ManagedTask.sorted (item : ManagedTask) : ManagedTask :=
  { item with dependencies := item.dependencies.insertionSort (· ≤ ·) }

def checkDeclared (taskIds : List String) (item : ManagedTask) : Except SdkError Unit := do
  check (∀ dependency ∈ item.dependencies, blank dependency = false)
    (.orchestration "dependencies must be task identifiers")
  check (item.dependencies.Nodup ∧ item.taskId.text ∉ item.dependencies)
    (.orchestration "duplicate or self dependency")
  check (∀ dependency ∈ item.dependencies, dependency ∈ taskIds)
    (.orchestration "managed dependency is not a task in this Run")

/-- `_topological_commands`, with the counts it keeps. -/
def countedCommands (commands : List ManagedTask) : Except SdkError (List ManagedTask) := do
  let taskIds := (commandGraph commands).names
  check taskIds.Nodup (.orchestration "managed task identifiers must be unique")
  commands.forM (checkDeclared taskIds)
  let items := commands.map ManagedTask.sorted
  let ordered := ((commandGraph items).taken popLeast).reverse.filterMap fun name =>
    items.find? fun item => item.name = name
  check (ordered.length = commands.length) (.orchestration "managed task graph contains a cycle")
  return ordered

/-! ### The search on names -/

theorem popLast_pops : Pops popLast where
  none := by simp [popLast]
  some := by
    intro ready vertex rest popped
    simp only [popLast, Option.map_eq_some_iff, Prod.mk.injEq] at popped
    obtain ⟨last, found, rfl, rfl⟩ := popped
    obtain ⟨front, rfl⟩ := getLast?_eq_some_iff.mp found
    simp

theorem popLeast_pops : Pops popLeast where
  none := by simp [popLeast, ← length_eq_zero_iff]
  some := by
    intro ready vertex rest popped
    simp only [popLeast, Option.map_eq_some_iff, Prod.mk.injEq] at popped
    obtain ⟨least, found, rfl, rfl⟩ := popped
    exact perm_cons_erase ((mem_insertionSort _).mp (mem_of_head? found))

namespace TaskNeeds

variable {graph : TaskNeeds} {name need : String}

theorem find_entry (once : graph.names.Nodup) {entry : String × List String} :
    graph.find? (fun stored => stored.1 = name) = some entry ↔ entry ∈ graph ∧ entry.1 = name :=
  @Table.find?_eq_some_iff _ _ _ ⟨graph, once⟩ _ _ _

theorem needs_of_mem (once : graph.names.Nodup) {needs : List String}
    (member : (name, needs) ∈ graph) : graph.needs name = needs := by
  rw [TaskNeeds.needs, (find_entry once).mpr ⟨member, rfl⟩]
  rfl

theorem mem_needs (once : graph.names.Nodup) :
    need ∈ graph.needs name ↔ graph.Precedes need name := by
  constructor
  · intro member
    cases found : graph.find? fun entry => entry.1 = name with
    | none => simp [needs, found] at member
    | some entry =>
      obtain ⟨stored, rfl⟩ := (find_entry once).mp found
      exact ⟨entry.2, stored, by simpa [needs, found] using member⟩
  · rintro ⟨needs, member, here⟩
    rwa [needs_of_mem once member]

theorem Declared.peeling (declared : graph.Declared) :
    Peeling graph.names graph.needs (unpeeled graph.names graph.needs).1
      (unpeeled graph.names graph.needs).2 [] := by
  refine .start declared.once fun name => ?_
  cases found : graph.find? fun entry => entry.1 = name with
  | none => simp [needs, found]
  | some entry => simpa [needs, found] using declared.distinct _ (mem_of_find?_eq_some found)

variable {pop : List String → Option (String × List String)}

theorem Declared.search (declared : graph.Declared) (pops : Pops pop) :
    ∃ counts, Peeling graph.names graph.needs counts [] (graph.taken pop) :=
  declared.peeling.run declared.once pops (by simp [names])

variable {other : TaskNeeds}

theorem precedes_perm (perm : graph ~ other) : graph.Precedes = other.Precedes := by
  funext name need
  simp only [Precedes, perm.mem_iff]

theorem Declared.perm (declared : graph.Declared) (perm : graph ~ other) : other.Declared where
  once := (perm.map _).nodup_iff.mp declared.once
  distinct entry here := declared.distinct entry (perm.mem_iff.mpr here)
  known entry here :=
    List.Subset.trans (declared.known entry (perm.mem_iff.mpr here)) (perm.map _).subset

theorem Declared.taken_iff (declared : graph.Declared) (pops : Pops pop) :
    (graph.taken pop).length = graph.length ↔ Acyclic graph.Precedes := by
  obtain ⟨counts, last⟩ := declared.search pops
  have edges : (fun need name => need ∈ graph.needs name) = graph.Precedes :=
    funext fun need => funext fun name => propext (mem_needs declared.once)
  have inside : ∀ need name, graph.Precedes need name → need ∈ graph.names := by
    rintro need name ⟨needs, member, here⟩
    exact declared.known _ member here
  have all := last.acyclic_iff declared.once fun name _ need here =>
    inside need name ((mem_needs declared.once).mp here)
  rw [edges, names, length_map] at all
  refine all.trans ⟨fun none name round => ?_, fun none name _ => none name⟩
  obtain ⟨next, edge, -⟩ := TransGen.head'_iff.mp round
  exact none name (inside name next edge) round

end TaskNeeds

/-! ### The order that is registered -/

variable {items ordered commands : List ManagedTask} {counts : String → ℕ}
  {ready taken : List String} {room : ℕ}

theorem names_commandGraph : (commandGraph items).names = items.map ManagedTask.name := by
  simp [commandGraph, TaskNeeds.names]

theorem needs_commandGraph (declared : (commandGraph items).Declared) :
    ∀ item ∈ items, (commandGraph items).needs item.name = item.dependencies :=
  fun _ member => TaskNeeds.needs_of_mem declared.once (mem_map_of_mem member)

/-- The next task is the least of those that are ready. -/
theorem nextCommand_ready (declared : (commandGraph items).Declared)
    (peeling : Peeling (commandGraph items).names (commandGraph items).needs counts ready taken)
    (names : ∀ name, name ∈ taken ↔ ∃ other ∈ ordered, other.name = name) :
    (nextCommand ordered (items.filter fun item => item.name ∉ taken)).map
        ManagedTask.name = (ready.insertionSort (· ≤ ·)).head? := by
  have needs := needs_commandGraph declared
  have single := declared.once
  have free := peeling.free
  rw [names_commandGraph] at single free
  rw [nextCommand, ← head?_map, map_insertionSort _ (· ≤ ·) _ _ fun _ _ _ _ => Iff.rfl]
  refine congrArg head? (Perm.eq_of_pairwise' (pairwise_insertionSort _ _)
    (pairwise_insertionSort _ _) ((perm_insertionSort _ _).trans (Perm.trans ?_
      (perm_insertionSort _ _).symm)))
  refine (perm_ext_iff_of_nodup (single.sublist ((filter_sublist.trans filter_sublist).map _))
    (nodup_append.mp peeling.once).1).mpr fun name => ?_
  simp only [mem_map, mem_filter, decide_eq_true_eq, all_eq_true, any_eq_true]
  constructor
  · rintro ⟨item, ⟨⟨known, left⟩, all⟩, rfl⟩
    refine (mem_append.mp ((free _).mpr ⟨mem_map_of_mem known, ?_⟩)).resolve_right left
    exact (needs item known).symm ▸ fun need here => (names need).mpr (all need here)
  · intro here
    obtain ⟨known, all⟩ := (free name).mp (mem_append_left _ here)
    obtain ⟨item, member, rfl⟩ := mem_map.mp known
    refine ⟨item, ⟨⟨member, fun also => ?_⟩, fun need wanted => ?_⟩, rfl⟩
    · exact (nodup_append.mp peeling.once).2.2 _ here _ also rfl
    · exact (names need).mp (all ((needs item member).symm ▸ wanted))

/-- Both searches take the same tasks in the same order. -/
theorem orderedCommands_peels (declared : (commandGraph items).Declared)
    (peeling : Peeling (commandGraph items).names (commandGraph items).needs counts ready taken)
    (names : ordered.map ManagedTask.name = taken.reverse) (inside : ordered ⊆ items) :
    orderedCommands room ordered (items.filter fun item => item.name ∉ taken) ⊆ items ∧
    (orderedCommands room ordered (items.filter fun item => item.name ∉ taken)).map
        ManagedTask.name =
      (peel popLeast (commandGraph items).names (commandGraph items).needs room (counts, ready)
        taken).reverse := by
  induction room generalizing counts ready taken ordered with
  | zero => exact ⟨inside, names⟩
  | succ room hypothesis =>
    have least := nextCommand_ready declared peeling fun name => by
      rw [← mem_reverse, ← names, mem_map]
    unfold orderedCommands peel popLeast
    rw [← least]
    cases found : nextCommand ordered (items.filter fun item => item.name ∉ taken) with
    | none => exact ⟨inside, names⟩
    | some item =>
      have known : item ∈ items.filter fun item => item.name ∉ taken :=
        mem_of_mem_filter ((mem_insertionSort _).mp (mem_of_head? found))
      have rest : ((items.filter fun item => item.name ∉ taken).filter fun other =>
          other.taskId ≠ item.taskId) =
          items.filter fun other => other.name ∉ item.name :: taken := by
        rw [filter_filter]
        refine filter_congr fun other _ => ?_
        simp [Identifier.ext_iff]
      dsimp only [Option.map_some]
      rw [rest]
      refine hypothesis (peeling.take declared.once (perm_cons_erase ?_)) ?_ ?_
      · rw [found] at least
        exact (mem_insertionSort _).mp (mem_of_head? least.symm)
      · simp [names]
      · exact append_subset.mpr ⟨inside, by simpa using mem_of_mem_filter known⟩

def Admissible (commands : List ManagedTask) : Prop :=
  (commandGraph commands).names.Nodup ∧ ∀ item ∈ commands,
    (∀ dependency ∈ item.dependencies, blank dependency = false) ∧
    (item.dependencies.Nodup ∧ item.taskId.text ∉ item.dependencies) ∧
    ∀ dependency ∈ item.dependencies, dependency ∈ (commandGraph commands).names

theorem names_sorted :
    (commandGraph (commands.map ManagedTask.sorted)).names = (commandGraph commands).names := by
  simp [names_commandGraph, ManagedTask.sorted]

namespace Admissible

variable (admissible : Admissible commands)
include admissible

theorem declared : (commandGraph (commands.map ManagedTask.sorted)).Declared := by
  refine ⟨by rw [names_sorted]; exact admissible.1, ?_, ?_⟩
  · exact forall_mem_map.mpr (forall_mem_map.mpr fun item member =>
      (perm_insertionSort _ _).nodup_iff.mpr (admissible.2 item member).2.1.1)
  · rw [names_sorted]
    exact forall_mem_map.mpr (forall_mem_map.mpr fun item member need here =>
      (admissible.2 item member).2.2 need ((mem_insertionSort _).mp here))

theorem searched :
    orderedCommands commands.length [] (commands.map ManagedTask.sorted) ⊆
        commands.map ManagedTask.sorted ∧
      (orderedCommands commands.length [] (commands.map ManagedTask.sorted)).map
        ManagedTask.name =
          ((commandGraph (commands.map ManagedTask.sorted)).taken popLeast).reverse := by
  have both := @orderedCommands_peels _ [] _ _ _ commands.length admissible.declared
    admissible.declared.peeling rfl (nil_subset _)
  simpa [TaskNeeds.taken, commandGraph] using both

theorem restored :
    (((commandGraph (commands.map ManagedTask.sorted)).taken popLeast).reverse.filterMap fun name =>
      (commands.map ManagedTask.sorted).find? fun item => item.name = name) =
      orderedCommands commands.length [] (commands.map ManagedTask.sorted) := by
  have single := admissible.declared.once
  rw [names_commandGraph] at single
  rw [← admissible.searched.2, filterMap_map]
  refine Eq.trans (filterMap_congr fun item member => ?_) filterMap_some
  exact @Table.find?_key _ _ _ ⟨_, single⟩ _ _ (admissible.searched.1 member)

theorem full_iff :
    (orderedCommands commands.length [] (commands.map ManagedTask.sorted)).length =
      commands.length ↔ Acyclic (commandGraph commands).Precedes := by
  have edges : (commandGraph (commands.map ManagedTask.sorted)).Precedes =
      (commandGraph commands).Precedes := by
    funext name need
    simp [TaskNeeds.Precedes, commandGraph, ManagedTask.sorted]
  have same := congrArg length admissible.searched.2
  rw [length_map, length_reverse] at same
  rw [← edges, ← admissible.declared.taken_iff popLeast_pops, same]
  simp [commandGraph]

end Admissible

theorem forM_eq_ok {Failure Item : Type} {body : Item → Except Failure Unit} {list : List Item}
    {value : Unit} : list.forM body = .ok value ↔ ∀ item ∈ list, body item = .ok () := by
  induction list with
  | nil => simp [pure, Except.pure]
  | cons item rest hypothesis =>
    rw [List.forM, bind_eq_ok, forall_mem_cons]
    exact ⟨fun ⟨_, first, others⟩ => ⟨first, hypothesis.mp others⟩,
      fun ⟨first, others⟩ => ⟨(), first, hypothesis.mpr others⟩⟩

theorem countedCommands_eq_ok : countedCommands commands = .ok ordered ↔ Admissible commands ∧
    Acyclic (commandGraph commands).Precedes ∧
    orderedCommands commands.length [] (commands.map ManagedTask.sorted) = ordered := by
  simp only [countedCommands, checkDeclared, passes_iff, forM_eq_ok]
  rw [← and_assoc]
  refine and_congr_right fun admissible => ?_
  rw [Admissible.restored admissible, Admissible.full_iff admissible]
  exact and_congr_right fun _ => ⟨Except.ok.inj, congrArg _⟩

/-- `_topological_commands` takes from its heap what the plain search would take next. -/
theorem countedCommands_iff :
    countedCommands commands = .ok ordered ↔ topologicalCommands commands = .ok ordered := by
  have names : (commandGraph commands).names = commands.map fun item => item.taskId.text :=
    names_commandGraph
  have single : (commands.map ManagedTask.taskId).Nodup ↔ (commandGraph commands).names.Nodup := by
    rw [names, ← nodup_map_iff fun _ _ => Identifier.ext, List.map_map]
    rfl
  simp only [topologicalCommands, passes_iff, length_map, single, ← names, pure, Except.pure,
    Except.ok.injEq, countedCommands_eq_ok]
  constructor
  · rintro ⟨admissible, acyclic, same⟩
    exact ⟨admissible.1, fun item member => (admissible.2 item member).1,
      fun item member => (admissible.2 item member).2.1,
      fun item member => (admissible.2 item member).2.2, admissible.full_iff.mpr acyclic, same⟩
  · rintro ⟨once, filled, distinct, known, full, same⟩
    have admissible : Admissible commands := ⟨once, fun item member =>
      ⟨filled item member, distinct item member, known item member⟩⟩
    exact ⟨admissible, admissible.full_iff.mp full, same⟩

/-- A graph of tasks is ordered exactly if its names and dependencies are in order and it has no
cycle. Every task is then ordered once, after all that it depends on. -/
theorem countedCommands_orders :
    ((∃ ordered, countedCommands commands = .ok ordered) ↔
      Admissible commands ∧ Acyclic (commandGraph commands).Precedes) ∧
    ∀ ordered, countedCommands commands = .ok ordered →
      ordered ~ commands.map ManagedTask.sorted ∧
      ∀ front item behind, ordered = front ++ item :: behind → ∀ dependency ∈ item.dependencies,
        ∃ other ∈ front, other.name = dependency := by
  simp only [countedCommands_eq_ok, exists_and_left, exists_eq', and_true, true_and]
  rintro _ ⟨admissible, acyclic, rfl⟩
  obtain ⟨inside, names⟩ := admissible.searched
  obtain ⟨counts, last⟩ := admissible.declared.search popLeast_pops
  have once := last.once
  rw [nil_append, ← nodup_reverse, ← names] at once
  refine ⟨(once.of_map _ |>.subperm inside).perm_of_length_le ?_, ?_⟩
  · rw [admissible.full_iff.mpr acyclic, length_map]
  · intro front item behind split need here
    have taken := congrArg reverse names
    rw [reverse_reverse, split] at taken
    have met := last.ordered
    rw [← taken, map_append, reverse_append, List.map_cons, reverse_cons, append_assoc] at met
    have behind := met.behind
    rw [needs_commandGraph admissible.declared item (inside (split ▸ by simp))] at behind
    simpa using behind here

variable {tasks sorted : List TaskSpec}

theorem runSpecTasks_eq_ok : runSpecTasks tasks = .ok sorted ↔ tasks ≠ [] ∧
    (specGraph tasks).Declared ∧ Acyclic (specGraph tasks).Precedes ∧
    sortedTasks tasks = sorted := by
  have perm : specGraph (sortedTasks tasks) ~ specGraph tasks := (perm_insertionSort _ _).map _
  simp only [runSpecTasks, validateAcyclic, checkKnown, passes_iff, forM_eq_ok]
  rw [← TaskNeeds.precedes_perm perm]
  refine and_congr_right fun _ => ⟨?_, ?_⟩
  · rintro ⟨once, known, full, same⟩
    have declared : (specGraph (sortedTasks tasks)).Declared := ⟨once, by
      simpa [specGraph] using fun task _ => task.distinct, by
      simpa [specGraph, List.subset_def] using known⟩
    exact ⟨declared.perm perm,
      (declared.taken_iff popLast_pops).mp (by simpa [specGraph] using full), Except.ok.inj same⟩
  · rintro ⟨declared, acyclic, rfl⟩
    have declared := declared.perm perm.symm
    exact ⟨declared.once, fun task here => declared.known _ (mem_map_of_mem here),
      by simpa [specGraph] using (declared.taken_iff popLast_pops).mpr acyclic, rfl⟩

/-- A `RunSpec` accepts exactly the graphs, but for the empty one, that `_topological_commands`
orders. -/
theorem runSpecTasks_agrees (command : TaskSpec → ExecutionCommand) :
    (∃ sorted, runSpecTasks tasks = .ok sorted) ↔ tasks ≠ [] ∧
      ∃ ordered, countedCommands (tasks.map fun task =>
        ⟨task.taskId, command task, task.dependencies⟩) = .ok ordered := by
  have graphs : commandGraph (tasks.map fun task =>
      ⟨task.taskId, command task, task.dependencies⟩) = specGraph tasks := by
    simp [commandGraph, specGraph]
  simp only [countedCommands_eq_ok, runSpecTasks_eq_ok, exists_and_left, exists_eq', and_true,
    Admissible, graphs]
  refine and_congr_right fun _ => and_congr_left fun _ => ⟨fun declared => ?_, fun admissible => ?_⟩
  · refine ⟨declared.once, fun item member => ?_⟩
    obtain ⟨task, here, rfl⟩ := mem_map.mp member
    exact ⟨task.filled, ⟨task.distinct, task.other⟩, declared.known _ (mem_map_of_mem here)⟩
  · refine ⟨admissible.1, ?_, ?_⟩
    · simpa [specGraph] using fun task _ => task.distinct
    · simpa [specGraph, List.subset_def] using
        fun task here => (admissible.2 _ (mem_map_of_mem here)).2.2

end DispatcherSdk.Orchestrator
