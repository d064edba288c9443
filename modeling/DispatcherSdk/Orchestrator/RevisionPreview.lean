/-
This file models the preview of a managed revision, and proves that no task is listed for
reuse that what has changed can reach.

The preview compares two task graphs and spreads what has changed over the dependencies of
both, the waits and the artifacts.

The arguments are taken as checked for their types: identifiers are not blank and fields are
strict JSON.
-/

import DispatcherSdk.ExecutionKernel.Contracts
import DispatcherSdk.Library.Attempt
import DispatcherSdk.Library.Components
import Mathlib.Data.String.Basic

namespace DispatcherSdk.Orchestrator

open ExecutionKernel Library Library.Checked Relation List

/-! ### Declarations and relations -/

/-- A task declaration, with its dependencies apart from its other fields. -/
structure TaskDeclaration where
  taskId : Identifier
  dependencies : List Identifier
  fields : List (String × Json)

structure WaitRelation where
  waitId : Identifier
  parentTaskId : Identifier
  waitedTaskId : Identifier
  registered : Bool

structure ArtifactRelation where
  artifactId : Identifier
  producerTaskId : Identifier
  consumerTaskId : Identifier
  registered : Bool

/-- The arguments of `preview_managed_revision`. -/
structure RevisionRequest where
  oldTasks : List TaskDeclaration
  newTasks : List TaskDeclaration
  changedTaskIds : List Identifier
  waitRelations : Option (List WaitRelation)
  artifactRelations : Option (List ArtifactRelation)
  reuseEvidence : List (Identifier × List (String × Json))

inductive PreviewError where
  | duplicateTask (label : String) (taskId : Identifier)
  | duplicateDependencies (label : String) (index : ℕ)
  | duplicateChanged

inductive PreviewBlocker where
  | unknownChangedTask (taskId : Identifier)
  | deletedDependency (graph : String) (taskId dependency : Identifier)
  | missingDependency (graph : String) (taskId dependency : Identifier)
  | taskGraphCycle (graph : String) (taskIds : List Identifier)
  | waitTaskMissing (waitId : Identifier) (taskIds : List Identifier)
  | unregisteredWait (waitId parent waited : Identifier)
  | artifactTaskMissing (artifactId : Identifier) (taskIds : List Identifier)
  | unregisteredArtifactRelation (artifactId producer consumer : Identifier)
  | waitEvidenceMissing
  | artifactEvidenceMissing
  | reuseUnproved (tasks : List (Identifier × List String))
  deriving DecidableEq

/-- `sorted` of a set of identifiers. -/
def sortedIds (ids : List Identifier) : List Identifier :=
  ids.dedup.insertionSort fun left right => left.text ≤ right.text

def TaskDeclaration.normalized (task : TaskDeclaration) : TaskDeclaration :=
  { task with dependencies := sortedIds task.dependencies }

/-- `!=` of two declarations, whose other fields are compared as Python compares them. -/
def TaskDeclaration.differs (equal : Json → Json → Bool) (left right : TaskDeclaration) : Bool :=
  !(left.dependencies == right.dependencies && equal (.object left.fields) (.object right.fields))

abbrev TaskGraph := List TaskDeclaration

namespace TaskGraph

variable (graph : TaskGraph)

def ids : List Identifier := graph.map (·.taskId)

def get? (taskId : Identifier) : Option TaskDeclaration :=
  graph.find? fun task => task.taskId = taskId

/-- `edges` of `_cycles`. -/
def successors (taskId : Identifier) : List Identifier :=
  match graph.get? taskId with
  | none => []
  | some task => sortedIds (task.dependencies.filter (· ∈ graph.ids))

/-- `reverse` of `_cycles`. -/
def predecessors (taskId : Identifier) : List Identifier :=
  sortedIds (graph.ids.filter fun other => taskId ∈ graph.successors other)

/-- The groups that `_cycles` finds, in the order in which it finds them. -/
def cycleGroups : List (List Identifier) :=
  let nodes := sortedIds graph.ids
  groups graph.successors graph.predecessors (nodes.length + 2) (finished graph.successors nodes) []

/-- `_cycles`. -/
def cycles : List (List Identifier) :=
  (graph.cycleGroups.map sortedIds).insertionSort fun left right =>
    left.map Identifier.text ≤ right.map Identifier.text

/-- A dependency in the graph and the task that has it. -/
def edges : List (Identifier × Identifier) :=
  graph.flatMap fun task => (task.dependencies.filter (· ∈ graph.ids)).map (·, task.taskId)

/-- A task and a dependency that is not in the graph. -/
def dangling : List (Identifier × Identifier) :=
  graph.flatMap fun task => (task.dependencies.filter (· ∉ graph.ids)).map (task.taskId, ·)

def blockers (name : String) (oldIds : List Identifier) : List PreviewBlocker :=
  graph.dangling.map (fun pair =>
    if pair.2 ∈ oldIds then .deletedDependency name pair.1 pair.2
    else .missingDependency name pair.1 pair.2) ++
  graph.cycles.map (.taskGraphCycle name)

/-- A task of the graph has a dependency. -/
def Needs (taskId dependency : Identifier) : Prop :=
  ∃ task ∈ graph, task.taskId = taskId ∧ dependency ∈ task.dependencies

end TaskGraph

/-! ### Evidence for reuse -/

def requiredProofFields : List String :=
  ["application_valid", "compatible", "content_identity", "result_id", "source_generation"]

/-- `_valid_reuse_proof`: the fields that are missing or not valid. -/
def missingProofFields (proof : List (String × Json)) : List String :=
  let wrong := fun (valid : Json → Bool) (field : String) =>
    match Json.get? proof field with
    | none => false
    | some value => !valid value
  let missing :=
    requiredProofFields.filter (fun field => (Json.get? proof field).isNone) ++
    ["result_id", "content_identity"].filter (wrong fun
      | .string text => !blank text
      | _ => false) ++
    ["source_generation"].filter (wrong fun
      | .int value => 0 ≤ value
      | _ => false) ++
    ["compatible", "application_valid"].filter (wrong fun
      | .bool _ => true
      | _ => false) ++
    (["compatible", "application_valid"].filter fun field =>
      match Json.get? proof field with
      | some (.bool true) => false
      | _ => true).map (· ++ "=true")
  missing.dedup.insertionSort (· ≤ ·)

namespace RevisionRequest

variable (request : RevisionRequest)

def old : TaskGraph := request.oldTasks.map TaskDeclaration.normalized

def new : TaskGraph := request.newTasks.map TaskDeclaration.normalized

def allIds : List Identifier := request.old.ids ++ request.new.ids

def waits : List WaitRelation := request.waitRelations.getD []

def artifacts : List ArtifactRelation := request.artifactRelations.getD []

/-- The evidence for a task, or what it is missing. -/
def proof (taskId : Identifier) : Except (List String) (List (String × Json)) :=
  match request.reuseEvidence.find? fun entry => entry.1 = taskId with
  | none => .error requiredProofFields
  | some entry =>
    if missingProofFields entry.2 = [] then .ok entry.2 else .error (missingProofFields entry.2)

/-! ### What has changed and what it reaches -/

variable (equal : Json → Json → Bool)

/-- A task of one of the graphs only, or whose declarations differ. -/
def differs (taskId : Identifier) : Bool :=
  match request.old.get? taskId, request.new.get? taskId with
  | some before, some after => before.differs equal after
  | _, _ => true

def changed : List Identifier :=
  request.changedTaskIds ++ request.allIds.filter (request.differs equal)

def unknownChanged : List Identifier := request.changedTaskIds.filter (· ∉ request.allIds)

/-- An edge for each dependency in its graph, wait and artifact. -/
def edges : List (Identifier × Identifier) :=
  request.old.edges ++ request.new.edges ++
    request.waits.map (fun wait => (wait.waitedTaskId, wait.parentTaskId)) ++
    request.artifacts.map fun artifact => (artifact.producerTaskId, artifact.consumerTaskId)

def consumers (taskId : Identifier) : List Identifier :=
  sortedIds ((request.edges.filter (·.1 = taskId)).map Prod.snd)

def seedIds : List Identifier :=
  (request.changed equal).filter (· ∈ request.allIds) ++ request.new.dangling.map Prod.fst ++
    request.old.cycles.flatten ++ request.new.cycles.flatten

/-- `_closure`. -/
def closure : List Identifier :=
  let seeds := sortedIds (request.seedIds equal)
  spread request.consumers (seeds.length + request.edges.length) seeds seeds

/-- The blockers for a relation of two tasks. -/
def relationBlockers (left right : Identifier) (registered : Bool)
    (taskMissing : List Identifier → PreviewBlocker) (unregistered : PreviewBlocker) :
    List PreviewBlocker :=
  let missing := sortedIds ([left, right].filter (· ∉ request.allIds))
  (if missing = [] then [] else [taskMissing missing]) ++ if registered then [] else [unregistered]

def waitBlockers : List PreviewBlocker :=
  request.waits.flatMap fun wait =>
    request.relationBlockers wait.parentTaskId wait.waitedTaskId wait.registered
      (.waitTaskMissing wait.waitId)
      (.unregisteredWait wait.waitId wait.parentTaskId wait.waitedTaskId)

def artifactBlockers : List PreviewBlocker :=
  request.artifacts.flatMap fun artifact =>
    request.relationBlockers artifact.producerTaskId artifact.consumerTaskId artifact.registered
      (.artifactTaskMissing artifact.artifactId)
      (.unregisteredArtifactRelation artifact.artifactId artifact.producerTaskId
        artifact.consumerTaskId)

def graphBlockers : List PreviewBlocker :=
  request.old.blockers "old" request.old.ids ++ request.new.blockers "new" request.old.ids

/-- Neither `relation_evidence_incomplete`, `graph_evidence_invalid` nor `unknown_changed`. -/
def impactComplete : Bool :=
  request.waitRelations.isSome && request.artifactRelations.isSome &&
    request.waitBlockers.isEmpty && request.artifactBlockers.isEmpty &&
    request.graphBlockers.isEmpty && request.unknownChanged.isEmpty

/-- Everything is affected where the impact is not known. -/
def affected : List Identifier :=
  request.closure equal ++ if request.impactComplete then [] else request.new.ids

/-- What must be computed again whatever the evidence. -/
def recomputed : List Identifier :=
  (request.affected equal).filter (· ∈ request.new.ids) ++
    request.new.ids.filter (· ∉ request.old.ids)

/-- The tasks whose evidence is looked at. -/
def examined : List Identifier :=
  sortedIds ((request.old.ids.filter (· ∈ request.new.ids)).filter
    (· ∉ request.recomputed equal))

def unproved : List (Identifier × List String) :=
  (request.examined equal).filterMap fun taskId =>
    match request.proof taskId with
    | .error missing => some (taskId, missing)
    | .ok _ => none

def candidates : List (Identifier × List (String × Json)) :=
  (request.examined equal).filterMap fun taskId =>
    match request.proof taskId with
    | .error _ => none
    | .ok proof => some (taskId, proof)

def blockers : List PreviewBlocker :=
  request.unknownChanged.map .unknownChangedTask ++ request.graphBlockers ++
    request.waitBlockers ++ request.artifactBlockers ++
    (if request.waitRelations.isNone then [.waitEvidenceMissing] else []) ++
    (if request.artifactRelations.isNone then [.artifactEvidenceMissing] else []) ++
    if request.unproved equal = [] then [] else [.reuseUnproved (request.unproved equal)]

end RevisionRequest

/-! ### The report -/

structure RevisionPreview where
  previewDigest : String
  impactComplete : Bool
  evidenceComplete : Bool
  sourceTaskIds : List Identifier
  targetTaskIds : List Identifier
  changedTaskIds : List Identifier
  impactedTaskIds : List Identifier
  mustRecomputeTaskIds : List Identifier
  retiredTaskIds : List Identifier
  reuseCandidates : List (Identifier × List (String × Json))
  blockers : List PreviewBlocker

/-- How Python digests the text of a request, compares two values, and orders the texts of two
records. -/
structure PreviewTools where
  digest : RevisionRequest → String
  equal : Json → Json → Bool
  waitPrecedes : WaitRelation → WaitRelation → Bool
  artifactPrecedes : ArtifactRelation → ArtifactRelation → Bool
  blockerPrecedes : PreviewBlocker → PreviewBlocker → Bool

namespace RevisionRequest

variable (tools : PreviewTools) (request : RevisionRequest)

def identity : RevisionRequest :=
  let byId := fun left right : TaskDeclaration => left.taskId.text ≤ right.taskId.text
  { oldTasks := request.old.insertionSort byId
    newTasks := request.new.insertionSort byId
    changedTaskIds := sortedIds (request.changed tools.equal)
    waitRelations := request.waitRelations.map (·.insertionSort (tools.waitPrecedes · ·))
    artifactRelations :=
      request.artifactRelations.map (·.insertionSort (tools.artifactPrecedes · ·))
    reuseEvidence := request.reuseEvidence }

def report : RevisionPreview where
  previewDigest := tools.digest (request.identity tools)
  impactComplete := request.impactComplete
  evidenceComplete := request.impactComplete && (request.unproved tools.equal).isEmpty
  sourceTaskIds := sortedIds request.old.ids
  targetTaskIds := sortedIds request.new.ids
  changedTaskIds := sortedIds (request.changed tools.equal)
  impactedTaskIds := sortedIds ((request.affected tools.equal).filter (· ∈ request.allIds))
  mustRecomputeTaskIds :=
    sortedIds (request.recomputed tools.equal ++ (request.unproved tools.equal).map Prod.fst)
  retiredTaskIds := sortedIds (request.old.ids.filter (· ∉ request.new.ids))
  -- the tasks have been examined in the order of the target tasks
  reuseCandidates := request.candidates tools.equal
  blockers := (request.blockers tools.equal).dedup.insertionSort (tools.blockerPrecedes · ·)

end RevisionRequest

/-- The checks of `_task_graph`: no task, and no dependency of a task, is declared twice. -/
def checkTasks (label : String) (seen : List Identifier) :
    List TaskDeclaration → Except PreviewError Unit
  | [] => .ok ()
  | task :: rest =>
    if task.taskId ∈ seen then .error (.duplicateTask label task.taskId)
    else if task.dependencies.Nodup then checkTasks label (seen ++ [task.taskId]) rest
    else .error (.duplicateDependencies label seen.length)

def previewManagedRevision (tools : PreviewTools) (request : RevisionRequest) :
    Except PreviewError RevisionPreview := do
  checkTasks "old_tasks" [] request.oldTasks
  checkTasks "new_tasks" [] request.newTasks
  if request.changedTaskIds.Nodup then .ok (request.report tools) else .error .duplicateChanged

/-! ### What a preview is meant to tell -/

namespace RevisionRequest

variable (request : RevisionRequest) (equal : Json → Json → Bool)

/-- One task needs another, in one of the graphs, by a wait or by an artifact. -/
def Leads (source target : Identifier) : Prop :=
  (∃ graph ∈ [request.old, request.new], graph.Needs target source) ∨
    (∃ wait ∈ request.waits, wait.waitedTaskId = source ∧ wait.parentTaskId = target) ∨
    ∃ artifact ∈ request.artifacts,
      artifact.producerTaskId = source ∧ artifact.consumerTaskId = target

/-- A graph has a task that needs itself, or that needs a task it does not have. -/
def Unsound (taskId : Identifier) : Prop :=
  ∃ graph ∈ [request.old, request.new], TransGen graph.Needs taskId taskId ∨
    ∃ dependency, graph.Needs taskId dependency ∧ dependency ∉ graph.ids

/-- A task that is named as changed, new, removed, declared otherwise, cyclic or dangling. -/
def Suspect (taskId : Identifier) : Prop :=
  taskId ∈ request.changedTaskIds ∨ (taskId ∈ request.allIds ∧ request.differs equal taskId) ∨
    request.Unsound taskId

/-- Relations are missing, disputed or about unknown tasks, a graph is unsound, or an unknown task
has changed. -/
def Blocked : Prop :=
  request.waitRelations = none ∨ request.artifactRelations = none ∨
    (∃ wait ∈ request.waits, wait.registered = false ∨ wait.parentTaskId ∉ request.allIds ∨
      wait.waitedTaskId ∉ request.allIds) ∨
    (∃ artifact ∈ request.artifacts, artifact.registered = false ∨
      artifact.producerTaskId ∉ request.allIds ∨ artifact.consumerTaskId ∉ request.allIds) ∨
    (∃ taskId, request.Unsound taskId) ∨ ∃ taskId ∈ request.changedTaskIds, taskId ∉ request.allIds

end RevisionRequest

/-! ### The graphs -/

theorem mem_sortedIds {ids : List Identifier} {taskId : Identifier} :
    taskId ∈ sortedIds ids ↔ taskId ∈ ids :=
  (mem_insertionSort _).trans mem_dedup

theorem nodup_sortedIds (ids : List Identifier) : (sortedIds ids).Nodup :=
  (perm_insertionSort _ _).nodup_iff.mpr (nodup_dedup ids)

namespace TaskGraph

variable {graph : TaskGraph} {taskId dependency : Identifier}

theorem Needs.mem (needs : graph.Needs taskId dependency) : taskId ∈ graph.ids := by
  obtain ⟨task, member, rfl, -⟩ := needs
  exact mem_map_of_mem member

variable {task : TaskDeclaration}

theorem get?_some (found : graph.get? taskId = some task) :
    task ∈ graph ∧ task.taskId = taskId := by
  have named := List.find?_some (show List.find? _ _ = _ from found)
  exact ⟨mem_of_find?_eq_some found, of_decide_eq_true named⟩

theorem get?_task (distinct : graph.ids.Nodup) (member : task ∈ graph) :
    graph.get? task.taskId = some task := by
  cases found : graph.get? task.taskId with
  | none => exact absurd (decide_eq_true rfl) (List.find?_eq_none.mp found task member)
  | some other =>
    obtain ⟨stored, same⟩ := get?_some found
    rw [inj_on_of_nodup_map distinct stored member same]

theorem mem_successors (distinct : graph.ids.Nodup) :
    dependency ∈ graph.successors taskId ↔
      graph.Needs taskId dependency ∧ dependency ∈ graph.ids := by
  unfold successors
  constructor
  · intro member
    split at member
    · cases member
    · rename_i task found
      obtain ⟨stored, named⟩ := get?_some found
      obtain ⟨listed, known⟩ := mem_filter.mp (mem_sortedIds.mp member)
      exact ⟨⟨task, stored, named, listed⟩, of_decide_eq_true known⟩
  · rintro ⟨⟨task, member, rfl, listed⟩, known⟩
    rw [get?_task distinct member]
    exact mem_sortedIds.mpr (mem_filter.mpr ⟨listed, decide_eq_true known⟩)

theorem mem_predecessors {other : Identifier} :
    other ∈ graph.predecessors taskId ↔ other ∈ graph.ids ∧ taskId ∈ graph.successors other := by
  unfold predecessors
  rw [mem_sortedIds, mem_filter, decide_eq_true_eq]

/-- A graph with a cycle is found to have one. -/
theorem cycles_ne_nil (distinct : graph.ids.Nodup) (cyclic : TransGen graph.Needs taskId taskId) :
    graph.cycles ≠ [] := by
  intro none
  have empty := congrArg List.length none
  rw [cycles, length_insertionSort, length_map] at empty
  have outside : ∀ vertex ∈ finished graph.successors (sortedIds graph.ids),
      ¬ TransGen graph.Needs vertex vertex := by
    refine groups_cycle (fun _ member => (mem_predecessors.mp member).2) ?_
      (fun _ seen => absurd seen not_mem_nil) (eq_nil_of_length_eq_zero empty)
    intro vertex round
    obtain ⟨before, path, edge⟩ := TransGen.tail'_iff.mp round
    obtain ⟨_, first, -⟩ := TransGen.head'_iff.mp round
    exact ⟨before, mem_predecessors.mpr ⟨edge.mem, (mem_successors distinct).mpr ⟨edge, first.mem⟩⟩,
      TransGen.head' edge path⟩
  obtain ⟨_, first, -⟩ := TransGen.head'_iff.mp cyclic
  exact outside taskId (mem_finished (mem_sortedIds.mpr first.mem)) cyclic

theorem mem_dangling (needs : graph.Needs taskId dependency) (missing : dependency ∉ graph.ids) :
    (taskId, dependency) ∈ graph.dangling := by
  obtain ⟨task, member, rfl, listed⟩ := needs
  exact mem_flatMap.mpr ⟨task, member, mem_map_of_mem
    (mem_filter.mpr ⟨listed, decide_eq_true missing⟩)⟩

theorem mem_edges (needs : graph.Needs taskId dependency) (known : dependency ∈ graph.ids) :
    (dependency, taskId) ∈ graph.edges := by
  obtain ⟨task, member, rfl, listed⟩ := needs
  exact mem_flatMap.mpr ⟨task, member, mem_map_of_mem
    (mem_filter.mpr ⟨listed, decide_eq_true known⟩)⟩

theorem blockers_nil {name : String} {oldIds : List Identifier}
    (none : graph.blockers name oldIds = []) : graph.dangling = [] ∧ graph.cycles = [] := by
  obtain ⟨dangling, cycles⟩ := append_eq_nil_iff.mp none
  exact ⟨map_eq_nil_iff.mp dangling, map_eq_nil_iff.mp cycles⟩

end TaskGraph

namespace RevisionRequest

variable {request : RevisionRequest} {equal : Json → Json → Bool}
  {source target taskId : Identifier}

theorem graphBlockers_nil (none : request.graphBlockers = []) :
    ∀ graph ∈ [request.old, request.new], graph.dangling = [] ∧ graph.cycles = [] := by
  obtain ⟨old, new⟩ := append_eq_nil_iff.mp none
  exact forall_mem_cons.mpr ⟨TaskGraph.blockers_nil old,
    forall_mem_singleton.mpr (TaskGraph.blockers_nil new)⟩

def Distinct (request : RevisionRequest) : Prop :=
  ∀ graph ∈ [request.old, request.new], graph.ids.Nodup

theorem sound_of_graphBlockers (distinct : request.Distinct) (none : request.graphBlockers = []) :
    ¬ request.Unsound taskId := by
  rintro ⟨graph, member, cyclic | ⟨dependency, needs, missing⟩⟩
  · exact TaskGraph.cycles_ne_nil (distinct graph member) cyclic
      (graphBlockers_nil none graph member).2
  · have listed := TaskGraph.mem_dangling needs missing
    rw [(graphBlockers_nil none graph member).1] at listed
    cases listed

theorem relationBlockers_nil {left right : Identifier} {registered : Bool}
    {taskMissing : List Identifier → PreviewBlocker} {unregistered : PreviewBlocker}
    (none : request.relationBlockers left right registered taskMissing unregistered = []) :
    registered = true ∧ left ∈ request.allIds ∧ right ∈ request.allIds := by
  obtain ⟨known, noted⟩ := append_eq_nil_iff.mp none
  split at known
  · rename_i missing
    have inside : ∀ taskId ∈ [left, right], taskId ∈ request.allIds := by
      intro taskId member
      by_contra unknown
      have listed : taskId ∈ sortedIds ([left, right].filter (· ∉ request.allIds)) :=
        mem_sortedIds.mpr (mem_filter.mpr ⟨member, decide_eq_true unknown⟩)
      rw [missing] at listed
      cases listed
    split at noted
    · exact ⟨‹_›, inside left mem_cons_self,
        inside right (mem_cons_of_mem _ mem_cons_self)⟩
    · cases noted
  · cases known

/-- Where the impact is known, nothing stands against the evidence. -/
theorem not_blocked (distinct : request.Distinct) (complete : request.impactComplete = true) :
    ¬ request.Blocked := by
  simp only [impactComplete, Bool.and_eq_true, List.isEmpty_iff] at complete
  obtain ⟨⟨⟨⟨⟨waits, artifacts⟩, ofWaits⟩, ofArtifacts⟩, graphs⟩, unknown⟩ := complete
  rintro (missing | missing | ⟨wait, member, wrong⟩ | ⟨artifact, member, wrong⟩ | ⟨_, unsound⟩ |
    ⟨taskId, member, missing⟩)
  · rw [missing] at waits
    cases waits
  · rw [missing] at artifacts
    cases artifacts
  · obtain ⟨registered, parent, waited⟩ :=
      relationBlockers_nil (List.flatMap_eq_nil_iff.mp ofWaits wait member)
    rw [registered] at wrong
    exact wrong.elim nofun fun wrong => wrong.elim (· parent) (· waited)
  · obtain ⟨registered, producer, consumer⟩ :=
      relationBlockers_nil (List.flatMap_eq_nil_iff.mp ofArtifacts artifact member)
    rw [registered] at wrong
    exact wrong.elim nofun fun wrong => wrong.elim (· producer) (· consumer)
  · exact sound_of_graphBlockers distinct graphs unsound
  · exact List.filter_eq_nil_iff.mp unknown taskId member (decide_eq_true missing)

/-! ### What is affected -/

theorem mem_edges (sound : ∀ taskId, ¬ request.Unsound taskId)
    (leads : request.Leads source target) : (source, target) ∈ request.edges := by
  unfold edges
  simp only [mem_append]
  rcases leads with ⟨graph, member, needs⟩ | ⟨wait, member, rfl, rfl⟩ | ⟨artifact, member, rfl, rfl⟩
  · have known : source ∈ graph.ids := by
      by_contra missing
      exact sound target ⟨graph, member, Or.inr ⟨source, needs, missing⟩⟩
    have listed := TaskGraph.mem_edges needs known
    rcases mem_cons.mp member with rfl | member
    · exact Or.inl (Or.inl (Or.inl listed))
    · rw [mem_singleton.mp member] at listed
      exact Or.inl (Or.inl (Or.inr listed))
  · exact Or.inl (Or.inr (mem_map.mpr ⟨wait, member, rfl⟩))
  · exact Or.inr (mem_map.mpr ⟨artifact, member, rfl⟩)

theorem mem_consumers : target ∈ request.consumers source ↔ (source, target) ∈ request.edges := by
  unfold consumers
  rw [mem_sortedIds, mem_map]
  constructor
  · rintro ⟨⟨_, _⟩, member, rfl⟩
    obtain ⟨listed, same⟩ := mem_filter.mp member
    obtain rfl := of_decide_eq_true same
    exact listed
  · exact fun member => ⟨_, mem_filter.mpr ⟨member, decide_eq_true rfl⟩, rfl⟩

theorem closure_closed (edge : (source, target) ∈ request.edges)
    (member : source ∈ request.closure equal) : target ∈ request.closure equal := by
  refine spread_closed (request.edges.map Prod.snd).toFinset (fun _ => nodup_sortedIds _) ?_ ?_
    (fun _ => Or.inl) source member (mem_consumers.mpr edge)
  · intro vertex next listed
    exact mem_toFinset.mpr (mem_map_of_mem (mem_consumers.mp listed))
  · refine Nat.add_le_add_left ?_ _
    refine (Finset.card_le_card Finset.sdiff_subset).trans ((toFinset_card_le _).trans ?_)
    rw [length_map]

theorem affected_closed (distinct : request.Distinct) (complete : request.impactComplete = true)
    (member : source ∈ request.affected equal) (path : ReflTransGen request.Leads source target) :
    target ∈ request.affected equal := by
  have sound : ∀ taskId, ¬ request.Unsound taskId := fun taskId unsound =>
    not_blocked distinct complete (Or.inr (Or.inr (Or.inr (Or.inr (Or.inl ⟨taskId, unsound⟩)))))
  unfold affected at member ⊢
  rw [if_pos complete, append_nil] at member ⊢
  induction path with
  | refl => exact member
  | tail _ edge hypothesis => exact closure_closed (mem_edges sound edge) hypothesis

theorem Suspect.affected (distinct : request.Distinct) (complete : request.impactComplete = true)
    (suspect : request.Suspect equal taskId) : taskId ∈ request.affected equal := by
  have free := not_blocked distinct complete
  have seeded : taskId ∈ request.changed equal → taskId ∈ request.allIds →
      taskId ∈ request.affected equal := by
    intro changed known
    refine mem_append_left _ (subset_spread (mem_sortedIds.mpr ?_))
    simp only [seedIds, mem_append]
    exact Or.inl (Or.inl (Or.inl (mem_filter.mpr ⟨changed, decide_eq_true known⟩)))
  rcases suspect with named | ⟨known, differs⟩ | unsound
  · refine seeded (mem_append_left _ named) ?_
    by_contra unknown
    exact free (Or.inr (Or.inr (Or.inr (Or.inr (Or.inr ⟨taskId, named, unknown⟩)))))
  · exact seeded (mem_append_right _ (mem_filter.mpr ⟨known, differs⟩)) known
  · exact absurd (Or.inr (Or.inr (Or.inr (Or.inr (Or.inl ⟨taskId, unsound⟩))))) free

theorem affected_of_incomplete (incomplete : request.impactComplete ≠ true)
    (member : taskId ∈ request.new.ids) : taskId ∈ request.affected equal := by
  unfold affected
  rw [if_neg incomplete]
  exact mem_append_right _ member

theorem mem_recomputed : taskId ∈ request.recomputed equal ↔ taskId ∈ request.new.ids ∧
    (taskId ∈ request.affected equal ∨ taskId ∉ request.old.ids) := by
  unfold recomputed
  simp only [mem_append, mem_filter, decide_eq_true_eq]
  tauto

theorem mem_examined : taskId ∈ request.examined equal ↔
    taskId ∈ request.old.ids ∧ taskId ∈ request.new.ids ∧ taskId ∉ request.affected equal := by
  unfold examined
  simp only [mem_sortedIds, mem_filter, decide_eq_true_eq, mem_recomputed]
  tauto

theorem mem_candidates : taskId ∈ (request.candidates equal).map Prod.fst ↔
    taskId ∈ request.examined equal ∧ ∃ proof, request.proof taskId = .ok proof := by
  unfold candidates
  simp only [mem_map, mem_filterMap]
  constructor
  · rintro ⟨⟨_, proof⟩, ⟨taskId, examined, given⟩, rfl⟩
    split at given
    · cases given
    · cases given
      exact ⟨examined, _, ‹_›⟩
  · rintro ⟨examined, proof, given⟩
    exact ⟨_, ⟨taskId, examined, by rw [given]⟩, rfl⟩

theorem mem_unproved : taskId ∈ (request.unproved equal).map Prod.fst ↔
    taskId ∈ request.examined equal ∧ ∃ missing, request.proof taskId = .error missing := by
  unfold unproved
  simp only [mem_map, mem_filterMap]
  constructor
  · rintro ⟨⟨_, proof⟩, ⟨taskId, examined, given⟩, rfl⟩
    split at given
    · cases given
      exact ⟨examined, _, ‹_›⟩
    · cases given
  · rintro ⟨examined, missing, given⟩
    exact ⟨_, ⟨taskId, examined, by rw [given]⟩, rfl⟩

/-- A new task is affected. -/
theorem affected_of_new (distinct : request.Distinct) (member : taskId ∈ request.new.ids)
    (new : taskId ∉ request.old.ids) : taskId ∈ request.affected equal := by
  by_cases complete : request.impactComplete = true
  · have absent : request.old.get? taskId = none := by
      refine List.find?_eq_none.mpr fun task stored same => new ?_
      rw [← of_decide_eq_true same]
      exact mem_map_of_mem stored
    refine Suspect.affected distinct complete (Or.inr (Or.inl ⟨mem_append_right _ member, ?_⟩))
    unfold differs
    rw [absent]
  · exact affected_of_incomplete complete member

/-- What leads to a target task from a suspect or an affected one makes it affected. -/
theorem affected_of_path (distinct : request.Distinct)
    (from_ : request.Suspect equal source ∨ source ∈ request.affected equal)
    (member : taskId ∈ request.new.ids) (path : ReflTransGen request.Leads source taskId) :
    taskId ∈ request.affected equal := by
  by_cases complete : request.impactComplete = true
  · exact affected_closed distinct complete (from_.elim (·.affected distinct complete) id) path
  · exact affected_of_incomplete complete member

variable {tools : PreviewTools}

theorem mem_mustRecompute (distinct : request.Distinct) :
    taskId ∈ (request.report tools).mustRecomputeTaskIds ↔ taskId ∈ request.new.ids ∧
      (taskId ∈ request.affected tools.equal ∨
        taskId ∈ request.old.ids ∧ ∃ missing, request.proof taskId = .error missing) := by
  have new : taskId ∈ request.new.ids → taskId ∉ request.old.ids →
      taskId ∈ request.affected tools.equal := affected_of_new distinct
  show taskId ∈ sortedIds _ ↔ _
  rw [mem_sortedIds, mem_append, mem_recomputed, mem_unproved, mem_examined]
  tauto

theorem mem_impacted : taskId ∈ (request.report tools).impactedTaskIds ↔
    taskId ∈ request.affected tools.equal ∧ taskId ∈ request.allIds := by
  show taskId ∈ sortedIds _ ↔ _
  rw [mem_sortedIds, mem_filter, decide_eq_true_eq]

theorem mem_reuseCandidates : taskId ∈ (request.report tools).reuseCandidates.map Prod.fst ↔
    (taskId ∈ request.old.ids ∧ taskId ∈ request.new.ids ∧
      taskId ∉ request.affected tools.equal) ∧ ∃ proof, request.proof taskId = .ok proof := by
  rw [← mem_examined]
  exact mem_candidates

end RevisionRequest

/-! ### What the checks find out -/

theorem checkTasks_ok {label : String} {seen : List Identifier} {tasks : List TaskDeclaration}
    (passed : checkTasks label seen tasks = .ok ()) :
    (seen ++ tasks.map TaskDeclaration.taskId).Nodup ∨ ¬ seen.Nodup := by
  induction tasks generalizing seen with
  | nil =>
    rw [map_nil, append_nil]
    exact em _
  | cons task rest hypothesis =>
    unfold checkTasks at passed
    split at passed
    · cases passed
    split at passed
    · have later := hypothesis passed
      rw [append_assoc] at later
      refine later.imp_right fun repeated fresh => repeated ?_
      exact nodup_append_comm.mp (nodup_cons.mpr ⟨‹_›, fresh⟩)
    · cases passed

theorem previewManagedRevision_ok {tools : PreviewTools} {request : RevisionRequest}
    {report : RevisionPreview} (accepted : previewManagedRevision tools request = .ok report) :
    request.Distinct ∧ report = request.report tools := by
  obtain ⟨_, old, accepted⟩ := bind_eq_ok.mp accepted
  obtain ⟨_, new, accepted⟩ := bind_eq_ok.mp accepted
  split at accepted
  · cases accepted
    have named : ∀ tasks : List TaskDeclaration,
        TaskGraph.ids (tasks.map TaskDeclaration.normalized) = tasks.map (·.taskId) :=
      fun tasks => map_map
    refine ⟨forall_mem_cons.mpr ⟨?_, forall_mem_singleton.mpr ?_⟩, rfl⟩
    · unfold RevisionRequest.old
      rw [named]
      exact (checkTasks_ok old).resolve_right (not_not_intro nodup_nil)
    · unfold RevisionRequest.new
      rw [named]
      exact (checkTasks_ok new).resolve_right (not_not_intro nodup_nil)
  · cases accepted

def sampleAhead : Identifier := ⟨"task", by decide⟩

def sampleBehind : Identifier := ⟨"consumer", by decide⟩

/-- Nothing has changed, and there is evidence for the second of two tasks. -/
def sampleRevisionRequest : RevisionRequest where
  oldTasks := [⟨sampleAhead, [], []⟩, ⟨sampleBehind, [sampleAhead], []⟩]
  newTasks := [⟨sampleAhead, [], []⟩, ⟨sampleBehind, [sampleAhead], []⟩]
  changedTaskIds := []
  waitRelations := some []
  artifactRelations := some []
  reuseEvidence := [(sampleBehind, [("result_id", .string "result"),
    ("content_identity", .string "content"), ("source_generation", .int 0),
    ("compatible", .bool true), ("application_valid", .bool true)])]

def samplePreviewTools : PreviewTools where
  digest _ := "digest"
  equal _ _ := true
  waitPrecedes _ _ := true
  artifactPrecedes _ _ := true
  blockerPrecedes _ _ := true

end DispatcherSdk.Orchestrator
