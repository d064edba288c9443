/-
This file proves that disposal is safe in every run.

A call that is about to delete a Run holds the lock of its store, so that what the plan
found there still holds, and its marker stands in the registry, so that nobody else disposes
of the Run and no reference to it is added. A call that is about to record a disposal holds
the lock of the registry, and the store has the tombstone.
-/

import DispatcherSdk.Provenance.Disposal

namespace DispatcherSdk.Provenance

open Library Orchestrator List

/-! ### What a plan without blockers has found -/

theorem block_eq_nil {code : BlockerCode} {count : ℕ} : block code count = [] ↔ count = 0 := by
  unfold block
  split <;> simp_all

/-- Nothing is left to be done for a Run, and nothing else has to do with it. -/
structure Source.Settled (source : Source) (runId : String) : Prop where
  links : ∀ link ∈ source.links, link.previousRunId ≠ runId ∧ link.nextRunId ≠ runId
  items : ∀ row ∈ source.items, row.runId = runId → row.part ≠ .task ∧ row.part ≠ .attempt
  executions : ∀ row ∈ source.executions, row.2 ≠ runId
  recoveries : ∀ row ∈ source.recoveries, row.runId ≠ runId
  outbox : ∀ row ∈ source.outbox, row.runId ≠ runId
  watches : ∀ row ∈ source.watches, row.runId ≠ runId
  subscriptions : ∀ row ∈ source.subscriptions, row.runId ≠ runId
  notifications : some runId ∉ source.notifications
  kernelExecutions : some runId ∉ source.kernelExecutions
  sandboxJournals : source.sandboxJournals = 0

variable {source : Source}

variable {runId : String}

theorem Source.settled_of_obligations (none_ : source.obligations runId = []) :
    source.Settled runId := by
  unfold obligations at none_
  simp only [append_eq_nil_iff, block_eq_nil, countP_eq_zero, and_assoc] at none_
  obtain ⟨links, items, executions, recoveries, outbox, watches, subscriptions, notifications, -,
    kernelExecutions, journals⟩ := none_
  refine ⟨fun link member => ?_, fun row member same => ?_, ?_, ?_, ?_, ?_, ?_, fun member => ?_,
    fun member => ?_, journals⟩
  · have apart := links link member
    unfold LinkRow.of at apart
    simpa using apart
  · have apart := items row member
    simpa [same] using apart
  · simpa using executions
  · simpa using recoveries
  · simpa using outbox
  · simpa using watches
  · simpa using subscriptions
  · exact notifications _ member (by simp)
  · exact kernelExecutions _ member (by simp)

def Source.Ended (source : Source) (runId : String) : Prop :=
  ∃ run ∈ source.runs, run.runId = runId ∧ runTerminal run.state = true

theorem Source.ended_of_blockers (none_ : source.runBlockers runId = []) : source.Ended runId := by
  unfold runBlockers at none_
  cases found : source.runs.find? fun row => row.runId = runId with
  | none =>
    rw [found] at none_
    dsimp only at none_
    split at none_ <;> cases none_
  | some run =>
    rw [found] at none_
    dsimp only at none_
    refine ⟨run, mem_of_find?_eq_some found, ?_, ?_⟩
    · simpa using List.find?_some found
    · by_contra live
      rw [if_neg live] at none_
      cases none_

theorem mem_block {code : BlockerCode} {count : ℕ} {blocker : BlockerCode × ℕ}
    (member : blocker ∈ block code count) : blocker.1 = code := by
  unfold block at member
  split at member
  · cases member
  · rw [mem_singleton.mp member]

theorem clear_of_filter {blockers : List (BlockerCode × ℕ)}
    (others : ∀ blocker ∈ blockers, blocker.1 ≠ .originNotActive)
    (clear : blockers.filter (fun blocker => blocker.1 ≠ .originNotActive) = []) : blockers = [] := by
  rwa [filter_eq_self.mpr fun blocker member => decide_eq_true (others blocker member)]
    at clear

theorem Source.runBlockers_others :
    ∀ blocker ∈ source.runBlockers runId, blocker.1 ≠ .originNotActive := by
  intro blocker member
  unfold runBlockers at member
  split at member
  · split at member
    · rw [mem_block member]
      decide
    · rw [mem_block member]
      decide
  · split at member
    · cases member
    · rw [mem_block member]
      decide

theorem Source.obligations_others :
    ∀ blocker ∈ source.obligations runId, blocker.1 ≠ .originNotActive := by
  intro blocker member
  simp only [obligations, mem_append, or_assoc] at member
  rcases member with found | found | found | found | found | found | found | found | found | found |
    found
  all_goals
    rw [mem_block found]
    decide

/-- The origin of a Run of a store, which nothing refers to. -/
structure Registry.Unreferenced (registry : Registry) (token : StoreToken) (runId origin : String) :
    Prop where
  registered : ∃ record, registry.runs.find? origin = some record ∧
    record.identity.storeId = token.storeId ∧ record.identity.incarnation = token.incarnation ∧
    record.identity.runId = runId
  unreferenced : ∀ reference ∈ registry.references, reference.target ≠ origin

theorem Source.buildPlan_facts {path origin : String} {registry : Registry} {digests : Digests}
    (clear : (source.buildPlan runId digests path registry).body.blockers.filter
      (fun blocker => blocker.1 ≠ .originNotActive) = [])
    (named : (source.buildPlan runId digests path registry).body.originDigest = some origin) :
    source.Ended runId ∧ source.Settled runId ∧
      registry.Unreferenced source.token runId origin := by
  unfold buildPlan at clear named
  dsimp only at clear named
  simp only [filter_append, append_eq_nil_iff] at clear
  obtain ⟨⟨⟨run, origins⟩, -⟩, open_⟩ := clear
  refine ⟨Source.ended_of_blockers (clear_of_filter Source.runBlockers_others run),
    Source.settled_of_obligations (clear_of_filter Source.obligations_others open_), ?_⟩
  unfold originBlockers at origins
  rcases found : registry.origins source.token runId with _ | ⟨record, _ | ⟨second, rest⟩⟩
  · rw [found] at named
    cases named
  · rw [found] at named origins
    cases named
    dsimp only at origins
    simp only [filter_append, append_eq_nil_iff] at origins
    have incoming := clear_of_filter
      (fun blocker member => by rw [mem_block member]; decide) origins.2
    have member : record ∈ registry.origins source.token runId := by
      rw [found]
      exact mem_cons_self
    obtain ⟨inside, same⟩ := mem_filter.mp member
    have identity := of_decide_eq_true same
    simp only [Prod.mk.injEq] at identity
    refine ⟨⟨record, Table.find?_key inside, identity⟩, fun reference known target => ?_⟩
    have none_ := countP_eq_zero.mp (block_eq_nil.mp incoming) reference known
    exact none_ (decide_eq_true target)
  · rw [found] at named
    cases named

/-! ### What a deletion leaves alone -/

theorem filter_without {Row : Type} {rows : List Row} {other : String}
    {name : Row → String} (apart : other ≠ runId) :
    (rows.filter fun row => name row ≠ runId).filter (fun row => name row = other) =
      rows.filter fun row => name row = other := by
  rw [filter_filter]
  refine filter_congr fun row _ => ?_
  by_cases same : name row = other
  · simp [same, apart]
  · simp [same]

theorem filter_within {Row : Type} {rows : List Row} {name : Row → String} :
    (rows.filter fun row => name row ≠ runId).filter (fun row => name row = runId) = [] := by
  rw [filter_filter, filter_eq_nil_iff]
  intro row _ both
  simp at both

theorem Source.deleteRun_rowsOf (source : Source) (row : DisposedRow) (mutation : ℕ) :
    (source.deleteRun row mutation).rowsOf row.runId = .none := by
  have links : (source.deleteRun row mutation).links.filter
      (fun link => link.of row.runId) = [] := by
    show (source.links.filter fun link => !link.of row.runId).filter _ = []
    rw [filter_filter, filter_eq_nil_iff]
    intro link _ both
    simp at both
  have times : (source.deleteRun row mutation).retentionTimes.filter
      (fun key => (source.deleteRun row mutation).times row.runId key) = [] := by
    rw [filter_eq_nil_iff]
    intro key _ kept
    cases key with
    | event sequence =>
      obtain ⟨event, member, same⟩ := any_eq_true.mp kept
      have apart := (mem_filter.mp member).2
      simp_all
    | revision runId revision =>
      obtain ⟨other, member, same⟩ := any_eq_true.mp kept
      have apart := (mem_filter.mp member).2
      simp_all
    | other => cases kept
  unfold rowsOf RunRows.none
  rw [times, links]
  simp only [deleteRun, filter_within]

theorem Source.times_apart {other : String} (apart : other ≠ runId) {key : RetentionKey}
    (timed : source.times other key = true) : source.times runId key = false := by
  cases key with
  | event sequence =>
    obtain ⟨event, member, same⟩ := any_eq_true.mp timed
    rw [Bool.and_eq_true, decide_eq_true_eq, decide_eq_true_eq] at same
    refine Bool.eq_false_iff.mpr fun timed => ?_
    obtain ⟨second, found, equal⟩ := any_eq_true.mp timed
    rw [Bool.and_eq_true, decide_eq_true_eq, decide_eq_true_eq] at equal
    have one : second = event :=
      inj_on_of_nodup_map source.sequences found member (equal.2.trans same.2.symm)
    rw [one, same.1] at equal
    exact apart equal.1
  | revision name revision =>
    obtain ⟨row, member, same⟩ := any_eq_true.mp timed
    simp only [Bool.and_eq_true, decide_eq_true_eq] at same
    refine Bool.eq_false_iff.mpr fun timed => ?_
    obtain ⟨second, found, equal⟩ := any_eq_true.mp timed
    simp only [Bool.and_eq_true, decide_eq_true_eq] at equal
    exact apart (same.1.2.symm.trans equal.1.2)
  | other => cases timed

theorem Source.deleteRun_others {row : DisposedRow} (mutation : ℕ)
    (unlinked : ∀ link ∈ source.links, link.previousRunId ≠ row.runId ∧ link.nextRunId ≠ row.runId)
    {other : String} (apart : other ≠ row.runId) :
    (source.deleteRun row mutation).rowsOf other = source.rowsOf other := by
  have links : (source.deleteRun row mutation).links = source.links := by
    refine filter_eq_self.mpr fun link member => ?_
    obtain ⟨previous, next⟩ := unlinked link member
    simp [LinkRow.of, previous, next]
  have same : ∀ key, (source.deleteRun row mutation).times other key = source.times other key := by
    intro key
    cases key with
    | event sequence =>
      show (List.filter _ source.events).any _ = source.events.any _
      rw [any_filter]
      refine congrArg (List.any source.events) (funext fun event => ?_)
      by_cases named : event.runId = other
      · simp [named, apart]
      · simp [named]
    | revision name revision =>
      show (List.filter _ source.revisions).any _ = source.revisions.any _
      rw [any_filter]
      refine congrArg (List.any source.revisions) (funext fun kept => ?_)
      by_cases named : kept.runId = other
      · simp [named, apart]
      · simp [named]
    | other => rfl
  have times : (source.deleteRun row mutation).retentionTimes.filter
      (fun key => source.times other key) =
        source.retentionTimes.filter fun key => source.times other key := by
    show (source.retentionTimes.filter fun key => !source.times row.runId key).filter _ = _
    rw [filter_filter]
    refine filter_congr fun key _ => ?_
    cases timed : source.times other key with
    | false => rfl
    | true =>
      rw [Source.times_apart apart timed]
      rfl
  unfold rowsOf
  simp only [same]
  rw [links, times]
  simp only [deleteRun, filter_without apart]

/-! ### Changes of the registry by others -/

/-- The records of Runs that are gone stay as they are, no Run goes, and new references are to Runs
that are not gone. -/
structure Registry.Tends (before after : Registry) : Prop where
  kept : ∀ origin record, before.runs.find? origin = some record → record.state.gone = true →
    after.runs.find? origin = some record
  came : ∀ origin record, after.runs.find? origin = some record → record.state.gone = true →
    before.runs.find? origin = some record
  references : ∀ reference ∈ after.references, reference ∈ before.references ∨
    ∀ record, before.runs.find? reference.target = some record → record.state.gone = false

namespace Registry

variable {registry next : Registry}

theorem Tends.refl (registry : Registry) : registry.Tends registry :=
  ⟨fun _ _ found _ => found, fun _ _ found _ => found, fun _ member => Or.inl member⟩

theorem Tends.put (record : RunRecord) {later : Registry} (live : record.state.gone = false)
    (before : ∀ old, registry.runs.find? record.originDigest = some old → old.state.gone = false)
    (runs : later.runs = registry.runs.put record) (references : later.references =
      registry.references) : registry.Tends later := by
  refine ⟨fun origin old found gone => ?_, fun origin new found gone => ?_, fun reference member => ?_⟩
  · rw [runs]
    by_cases same : origin = record.originDigest
    · rw [same] at found
      cases (before old found).symm.trans gone
    · rwa [Table.find?_put_other _ same]
  · rw [runs] at found
    by_cases same : origin = record.originDigest
    · rw [same, Table.find?_put_same] at found
      cases found
      cases live.symm.trans gone
    · rwa [Table.find?_put_other _ same] at found
  · rw [references] at member
    exact .inl member

theorem closeScope_tends : registry.Tends registry.closeScope := by
  unfold closeScope
  split
  · exact .refl registry
  · exact ⟨fun _ _ found _ => found, fun _ _ found _ => found, fun _ member => Or.inl member⟩

theorem registerRun_tends {originDigest path : String} {identity : Identity}
    (registered : registry.registerRun originDigest identity path = some next) :
    registry.Tends next := by
  unfold registerRun at registered
  split at registered
  · cases registered
  cases found : registry.runs.find? originDigest with
  | some existing =>
    rw [found] at registered
    dsimp only at registered
    split at registered
    · cases registered
    split at registered
    · cases registered
    · cases registered
      exact .refl registry
  | none =>
    rw [found] at registered
    cases registered
    refine .put (fresh originDigest identity path) rfl (fun old stored => ?_) rfl rfl
    cases found.symm.trans stored

theorem addReference_tends {reference : Reference}
    (added : registry.addReference reference = some next) : registry.Tends next := by
  unfold addReference at added
  split at added
  · rename_i source target _ found
    split at added
    · cases added
    split at added
    · cases added
    rename_i live
    split at added
    · cases added
      exact .refl registry
    · cases added
      refine ⟨fun _ _ found _ => found, fun _ _ found _ => found, fun other member => ?_⟩
      rcases mem_append.mp (mem_insertionSort _ |>.mp member) with old | new
      · exact .inl old
      · rw [mem_singleton.mp new]
        refine Or.inr fun record stored => ?_
        cases found.symm.trans stored
        exact Bool.eq_false_iff.mpr live
  · cases added

theorem registerArchive_tends {originDigest : String} {locator : ColdLocator}
    (registered : registry.registerArchive originDigest locator = some next) :
    registry.Tends next := by
  unfold registerArchive at registered
  cases found : registry.runs.find? originDigest with
  | none =>
    rw [found] at registered
    cases registered
  | some record =>
    rw [found] at registered
    dsimp only at registered
    split at registered
    · cases registered
    rename_i live
    cases registered
    have named := Table.key_of_find? found
    refine .put { record with coldLocator := some locator }
      (Bool.eq_false_iff.mpr live) (fun old stored => ?_) rfl rfl
    cases (named ▸ found).symm.trans stored
    exact Bool.eq_false_iff.mpr live

end Registry

/-! ### What holds of the calls -/

namespace World

variable (digests : Digests)

/-- The store of the call is locked by it, the Run may be deleted, and the marker of the call stands
in the registry. -/
structure Guards (world : World) (process : ℕ) (call : DisposalCall) : Prop where
  locked : world.sourceLocks call.plan.body.source = some process
  ended : (world.sources call.plan.body.source).Ended call.plan.body.runId
  settled : (world.sources call.plan.body.source).Settled call.plan.body.runId
  present : (world.sources call.plan.body.source).disposedRuns.find? call.plan.body.runId = none
  marker : ∃ record, world.registry.runs.find? call.origin = some record ∧
    record.state = .deleting ∧ record.deletion = some call.deletion ∧
    record.identity.storeId = (world.sources call.plan.body.source).token.storeId ∧
    record.identity.incarnation = (world.sources call.plan.body.source).token.incarnation ∧
    record.identity.runId = call.plan.body.runId
  unrecorded : ∀ disposal ∈ world.disposals, disposal.2.tombstone.originDigest ≠ call.origin

/-- The registry is locked by the call, which has read it. -/
def Holds (world : World) (process : ℕ) (document : Registry) : Prop :=
  world.registryLock = some process ∧ document = world.registry

/-- The marker of the call stands in the registry. -/
def Marks (world : World) (call : DisposalCall) : Prop :=
  ∃ record, world.registry.runs.find? call.origin = some record ∧ record.state = .deleting ∧
    record.deletion = some call.deletion

def Supports (world : World) (process : ℕ) (call : DisposalCall) : Prop :=
  call.plan.validated digests call.origin ∧
  match call.phase with
  | .opened => True
  | .loaded document => world.Holds process document ∧
      ∃ record, world.registry.runs.find? call.origin = some record ∧
        ((record.state = .deleting ∧ record.deletion = some call.deletion) ∨
          record.state.gone = false)
  | .marked => world.Guards process call
  | .deleting document => world.Holds process document ∧ world.Guards process call
  | .recording document tombstone authentication => world.Holds process document ∧
      world.Marks call ∧ call.owns tombstone ∧ (call.plan.body.source,
        (⟨call.plan.body.runId, tombstone, authentication⟩ : DisposedRow)) ∈ world.disposals

/-- What holds of a disposal that was committed. -/
structure Kept (world : World) (path : String) (row : DisposedRow) : Prop where
  signed : row.authentication = digests.tombstone row.tombstone
  named : row.tombstone.runId = row.runId
  absent : (world.sources path).rowsOf row.runId = .none
  planned : ∃ body : PlanBody, body.source = path ∧ digests.plan body = row.tombstone.planDigest
  registered : ∃ record, world.registry.runs.find? row.tombstone.originDigest = some record ∧
    record.identity.runId = row.runId ∧
    ((record.state = .deleting ∧
        record.deletion = some ⟨row.tombstone.operationId, row.tombstone.planDigest⟩) ∨
      (record.state = .disposed ∧ ∃ locator ∈ record.tombstone, locator.tombstone = row.tombstone))

/-- What holds in every state of every run. -/
structure Sound (world : World) : Prop where
  disposals : ∀ path row, row ∈ (world.sources path).disposedRuns ↔ (path, row) ∈ world.disposals
  once : (world.disposals.map fun disposal => (disposal.1, disposal.2.runId)).Nodup
  kept : ∀ path row, (path, row) ∈ world.disposals → world.Kept digests path row
  records : ∀ record ∈ world.registry.runs, record.state = .disposed →
    ∃ row locator, (record.hotPath, row) ∈ world.disposals ∧ row.runId = record.identity.runId ∧
      record.tombstone = some locator ∧ locator.tombstone = row.tombstone ∧
      locator.sourceAuthentication = row.authentication
  references : ∀ reference ∈ world.registry.references, ∀ record,
    world.registry.runs.find? reference.target = some record → record.state.gone = false
  calls : ∀ process call, world.calls process = some (.disposing call) →
    world.Supports digests process call
  answers : ∀ answer ∈ world.answers, ∃ record,
    world.registry.runs.find? answer.origin = some record ∧ record.state = .disposed ∧
      record.tombstone = some answer.locator

end World

section Moves

variable {digests : Digests} {before after world : World} {actor : Actor} {process : ℕ}
  {call : DisposalCall}

theorem World.Supports.keep (supports : before.Supports digests process call)
    (registry : before.registryLock = some process →
      after.registryLock = some process ∧ after.registry = before.registry)
    (sources : ∀ path, before.sourceLocks path = some process →
      after.sourceLocks path = some process ∧ after.sources path = before.sources path)
    (records : before.Guards process call → ∀ record,
      before.registry.runs.find? call.origin = some record → record.state = .deleting →
      after.registry.runs.find? call.origin = some record)
    (grows : ∀ disposal ∈ before.disposals, disposal ∈ after.disposals)
    (disposals : before.Guards process call → ∀ disposal ∈ after.disposals,
      disposal ∈ before.disposals ∨ disposal.2.tombstone.originDigest ≠ call.origin) :
    after.Supports digests process call := by
  have holds : ∀ {document : Registry}, before.Holds process document →
      after.Holds process document := by
    rintro document ⟨locked, same⟩
    obtain ⟨still, kept⟩ := registry locked
    exact ⟨still, same.trans kept.symm⟩
  have guards : before.Guards process call → after.Guards process call := by
    intro guards
    obtain ⟨still, same⟩ := sources _ guards.locked
    obtain ⟨record, found, deleting, rest⟩ := guards.marker
    refine ⟨still, same ▸ guards.ended, same ▸ guards.settled, same ▸ guards.present,
      ⟨record, records guards record found deleting, deleting, same ▸ rest⟩,
      fun disposal member => ?_⟩
    rcases disposals guards disposal member with old | apart
    · exact guards.unrecorded disposal old
    · exact apart
  obtain ⟨validated, held⟩ := supports
  refine ⟨validated, ?_⟩
  cases phase : call.phase with
  | opened => trivial
  | loaded document =>
    rw [phase] at held
    obtain ⟨locked, record⟩ := held
    exact ⟨holds locked, (registry locked.1).2 ▸ record⟩
  | marked =>
    rw [phase] at held
    exact guards held
  | deleting document =>
    rw [phase] at held
    exact ⟨holds held.1, guards held.2⟩
  | recording document tombstone authentication =>
    rw [phase] at held
    obtain ⟨locked, marks, own, member⟩ := held
    refine ⟨holds locked, ?_, own, grows _ member⟩
    unfold Marks
    rw [(registry locked.1).2]
    exact marks

/-- A move that changes no file and no lock leaves all calls as they are. -/
theorem World.Supports.unmoved (supports : before.Supports digests process call)
    (registryLock : after.registryLock = before.registryLock)
    (registry : after.registry = before.registry)
    (sourceLocks : after.sourceLocks = before.sourceLocks)
    (sources : after.sources = before.sources) (disposals : after.disposals = before.disposals) :
    after.Supports digests process call := by
  refine supports.keep (fun locked => ⟨registryLock.trans locked, registry⟩)
    (fun path locked => ?_) (fun _ _ found _ => ?_) (fun _ known => ?_) (fun _ _ known => .inl ?_)
  · rw [sourceLocks, sources]
    exact ⟨locked, rfl⟩
  · rwa [registry]
  · rwa [disposals]
  · rwa [← disposals]

theorem World.Kept.same {path : String} {row : DisposedRow} (kept : before.Kept digests path row)
    (sources : after.sources path = before.sources path)
    (registry : after.registry = before.registry) : after.Kept digests path row := by
  obtain ⟨signed, named, absent, planned, registered⟩ := kept
  exact ⟨signed, named, sources ▸ absent, planned, registry ▸ registered⟩

/-- Where the registry changes no more than by others, the stores and the disposals stay, and answers
are those of disposed Runs. -/
theorem World.Sound.tends (sound : before.Sound digests)
    (tends : before.registry.Tends after.registry) (sources : after.sources = before.sources)
    (disposals : after.disposals = before.disposals)
    (calls : ∀ process call, after.calls process = some (.disposing call) →
      after.Supports digests process call)
    (answers : ∀ answer ∈ after.answers, answer ∈ before.answers ∨ ∃ record,
      before.registry.runs.find? answer.origin = some record ∧ record.state = .disposed ∧
        record.tombstone = some answer.locator) :
    after.Sound digests := by
  have gone : ∀ {record : RunRecord}, record.state = .disposed → record.state.gone = true := by
    intro record same
    rw [same]
    rfl
  refine ⟨?_, ?_, ?_, ?_, ?_, calls, ?_⟩
  · rw [sources, disposals]
    exact sound.disposals
  · rw [disposals]
    exact sound.once
  · intro path row member
    rw [disposals] at member
    obtain ⟨signed, named, absent, planned, record, found, same, state⟩ := sound.kept path row member
    refine ⟨signed, named, sources ▸ absent, planned, record, tends.kept _ _ found ?_, same, state⟩
    rcases state with ⟨deleting, -⟩ | ⟨disposed, -⟩
    · rw [deleting]
      rfl
    · exact gone disposed
  · intro record member disposed
    have old := tends.came _ _ (Table.find?_key member) (gone disposed)
    rw [disposals]
    exact sound.records record (Table.mem_of_find? old) disposed
  · intro reference member record found
    refine Bool.eq_false_iff.mpr fun live => ?_
    have old := tends.came _ _ found live
    rcases tends.references reference member with known | fresh
    · exact Bool.eq_false_iff.mp (sound.references reference known record old) live
    · exact Bool.eq_false_iff.mp (fresh record old) live
  · intro answer member
    have known : ∃ record, before.registry.runs.find? answer.origin = some record ∧
        record.state = .disposed ∧ record.tombstone = some answer.locator := by
      rcases answers answer member with old | new
      · exact sound.answers answer old
      · exact new
    obtain ⟨record, found, disposed, same⟩ := known
    exact ⟨record, tends.kept _ _ found (gone disposed), disposed, same⟩

theorem World.Supports.unlocked (supports : before.Supports digests process call)
    (free : before.registryLock = none) (tends : before.registry.Tends after.registry)
    (sources : after.sources = before.sources) (locks : after.sourceLocks = before.sourceLocks)
    (disposals : after.disposals = before.disposals) : after.Supports digests process call := by
  refine supports.keep (fun locked => ?_) (fun path locked => ?_) (fun _ record found deleting => ?_)
    (fun disposal member => ?_) (fun _ disposal member => ?_)
  · cases free.symm.trans locked
  · rw [locks, sources]
    exact ⟨locked, rfl⟩
  · exact tends.kept _ _ found (by rw [deleting]; rfl)
  · rw [disposals]
    exact member
  · rw [disposals] at member
    exact .inl member

theorem World.Supports.ends (supports : before.Supports digests process call) {other : ℕ}
    (apart : process ≠ other) : (before.ends other).Supports digests process call := by
  refine supports.keep (fun locked => ⟨?_, rfl⟩) (fun path locked => ⟨?_, rfl⟩)
    (fun _ _ found _ => found) (fun _ member => member) (fun _ _ member => Or.inl member)
  · show (if before.registryLock = some other then none else before.registryLock) = _
    rw [locked, if_neg fun same => apart (Option.some.inj same)]
  · show (if before.sourceLocks path = some other then none else before.sourceLocks path) = _
    rw [locked, if_neg fun same => apart (Option.some.inj same)]

theorem World.Sound.updated {calls : ℕ → Option Call} (sound : before.Sound digests)
    (others : ∀ other call, other ≠ process → before.Supports digests other call →
      after.Supports digests other call) {own : Option Call}
    (mover : ∀ call, own = some (.disposing call) → after.Supports digests process call)
    (same : calls = Function.update before.calls process own) :
    ∀ other call, calls other = some (.disposing call) → after.Supports digests other call := by
  intro other call under
  rw [same] at under
  by_cases equal : other = process
  · rw [equal, Function.update_self] at under
    rw [equal]
    exact mover call under
  · rw [Function.update_of_ne equal] at under
    exact others other call equal (sound.calls other call under)

/-! ### The moves that commit -/

theorem World.Sound.write (sound : before.Sound digests) {path : String} {next : Source}
    (free : before.sourceLocks path = none) (writes : (before.sources path).Writes next) :
    World.Sound digests { before with sources := Function.update before.sources path next } := by
  have tables : ∀ other, (Function.update before.sources path next other).disposedRuns =
      (before.sources other).disposedRuns := by
    intro other
    by_cases same : other = path
    · rw [same, Function.update_self]
      exact writes.disposedRuns
    · rw [Function.update_of_ne same]
  refine ⟨fun other row => ?_, sound.once, fun other row member => ?_, sound.records,
    sound.references, fun process call under => ?_, sound.answers⟩
  · show row ∈ (Function.update before.sources path next other).disposedRuns ↔ _
    rw [tables]
    exact sound.disposals other row
  · obtain ⟨signed, named, absent, planned, registered⟩ := sound.kept other row member
    refine ⟨signed, named, ?_, planned, registered⟩
    show (Function.update before.sources path next other).rowsOf row.runId = .none
    by_cases same : other = path
    · subst same
      rw [Function.update_self, writes.spares row.runId, absent]
      rw [Table.find?_key ((sound.disposals other row).mpr member)]
      exact Option.some_ne_none row
    · rw [Function.update_of_ne same]
      exact absent
  · refine (sound.calls process call under).keep (fun locked => ⟨locked, rfl⟩)
      (fun other locked => ⟨locked, ?_⟩) (fun _ _ found _ => found) (fun _ known => known)
      (fun _ _ known => Or.inl known)
    refine Function.update_of_ne (fun same => ?_) _ _
    rw [same, free] at locked
    cases locked

/-- While the record of a Run is not gone or marks a call whose store has no tombstone, no disposal is
one of its origin. -/
theorem World.Sound.unrecorded (sound : before.Sound digests)
    (separates : ∀ left right, digests.plan left = digests.plan right → left.source = right.source)
    {record : RunRecord} (planned : digests.plan call.plan.body = call.plan.planDigest)
    (found : before.registry.runs.find? call.origin = some record)
    (state : (record.state = .deleting ∧ record.deletion = some call.deletion ∧
        record.identity.runId = call.plan.body.runId ∧
        (before.sources call.plan.body.source).disposedRuns.find? call.plan.body.runId = none) ∨
      record.state.gone = false) :
    ∀ disposal ∈ before.disposals, disposal.2.tombstone.originDigest ≠ call.origin := by
  rintro ⟨path, row⟩ member same
  obtain ⟨-, -, -, ⟨body, source, digest⟩, other, stored, named, marker⟩ := sound.kept path row member
  dsimp only at same
  rw [same, found] at stored
  cases stored
  rcases state with ⟨deleting, deletion, identity, absent⟩ | live
  · rcases marker with ⟨-, marked⟩ | ⟨disposed, -⟩
    · rw [deletion, Option.some.injEq] at marked
      have plans : call.plan.planDigest = row.tombstone.planDigest :=
        congrArg Deletion.planDigest marked
      have one : call.plan.body.source = path :=
        (separates _ _ (planned.trans (plans.trans digest.symm))).trans source
      have inside := (sound.disposals path row).mpr member
      rw [one, ← identity, named, Table.find?_key inside] at absent
      cases absent
    · cases deleting.symm.trans disposed
  · rcases marker with ⟨deleting, -⟩ | ⟨disposed, -⟩
    · rw [deleting] at live
      cases live
    · rw [disposed] at live
      cases live

variable {document : Registry}

section

variable {record : RunRecord} (sound : before.Sound digests)
  (separates : ∀ left right, digests.plan left = digests.plan right → left.source = right.source)
  (under : before.calls process = some (.disposing call)) (loaded : call.phase = .loaded document)
  (found : document.runs.find? call.origin = some record)

include sound separates under loaded found

theorem World.Sound.mark (present : record.state ≠ .deleting)
    (free : before.sourceLocks call.plan.body.source = none)
    (absent : (before.sources call.plan.body.source).disposedRuns.find? call.plan.body.runId = none)
    (recomputed : (before.sources call.plan.body.source).buildPlan call.plan.body.runId digests
      call.plan.body.source document = call.plan) :
    World.Sound digests
      { before.goes process call .marked with
        registry := document.marked record call.deletion
        registryLock := none
        sourceLocks := Function.update before.sourceLocks call.plan.body.source (some process) } := by
  obtain ⟨validated, held⟩ := sound.calls process call under
  rw [loaded] at held
  obtain ⟨⟨locked, rfl⟩, other, stored, state⟩ := held
  cases found.symm.trans stored
  have live : record.state.gone = false := state.resolve_left fun deleting => present deleting.1
  have named : record.originDigest = call.origin := Table.key_of_find? found
  have clear : ((before.sources call.plan.body.source).buildPlan call.plan.body.runId digests
      call.plan.body.source before.registry).body.blockers.filter
        (fun blocker => blocker.1 ≠ .originNotActive) = [] := by
    rw [recomputed, validated.2.2.1]
    rfl
  obtain ⟨ended, settled, ⟨registered, stored, storeId, incarnation, runId⟩, unreferenced⟩ :=
    Source.buildPlan_facts clear (by rw [recomputed]; exact validated.2.2.2)
  cases found.symm.trans stored
  have unrecorded := sound.unrecorded separates validated.1 found (.inr live)
  have others : ∀ origin, origin ≠ call.origin →
      (before.registry.marked record call.deletion).runs.find? origin =
        before.registry.runs.find? origin := by
    intro origin apart
    rw [← named] at apart
    exact @Table.find?_put_other _ _ _ _ before.registry.runs
      { record with state := .deleting, deletion := some call.deletion } origin apart
  have own : (before.registry.marked record call.deletion).runs.find? call.origin =
      some { record with state := .deleting, deletion := some call.deletion } := by
    rw [← named]
    exact Table.find?_put_same before.registry.runs
      { record with state := .deleting, deletion := some call.deletion }
  refine ⟨sound.disposals, sound.once, fun path row member => ?_, fun later member disposed => ?_,
    fun reference member later stored => ?_, ?_, fun answer member => ?_⟩
  · obtain ⟨signed, same, gone, planned, registered⟩ := sound.kept path row member
    refine ⟨signed, same, gone, planned, ?_⟩
    rw [← others _ (unrecorded _ member)] at registered
    exact registered
  · have stored := Table.find?_key member
    by_cases same : later.originDigest = call.origin
    · rw [same] at stored
      cases own.symm.trans stored
      cases disposed
    · rw [others _ same] at stored
      exact sound.records later (Table.mem_of_find? stored) disposed
  · have apart : reference.target ≠ call.origin := unreferenced reference member
    rw [others _ apart] at stored
    exact sound.references reference member later stored
  · refine World.Sound.updated sound (fun other call' apart supports => ?_) (fun call' same => ?_) rfl
    · refine supports.keep (fun locked' => ?_) (fun path locked' => ⟨?_, rfl⟩)
        (fun guards old stored deleting => ?_) (fun _ known => known) (fun _ _ known => Or.inl known)
      · exact absurd (Option.some.inj (locked'.symm.trans locked)) apart
      · refine (Function.update_of_ne (fun same => ?_) _ _).trans locked'
        rw [same, free] at locked'
        cases locked'
      · refine (others _ fun same => ?_).trans stored
        rw [same, found, Option.some.injEq] at stored
        subst stored
        exact present deleting
    · cases same
      exact ⟨validated, Function.update_self _ _ _, ended, settled, absent,
        ⟨_, own, rfl, rfl, storeId, incarnation, runId⟩, unrecorded⟩
  · obtain ⟨later, stored, disposed, same⟩ := sound.answers answer member
    refine ⟨later, (others _ fun equal => ?_).trans stored, disposed, same⟩
    rw [equal, found, Option.some.injEq] at stored
    subst stored
    rw [disposed] at live
    cases live

theorem World.Sound.retry (deleting : record.state = .deleting)
    (free : before.sourceLocks call.plan.body.source = none)
    (absent : (before.sources call.plan.body.source).disposedRuns.find? call.plan.body.runId = none)
    (holds : call.plan.holdsAgain ((before.sources call.plan.body.source).buildPlan
      call.plan.body.runId digests call.plan.body.source document)) :
    World.Sound digests
      { before.goes process call (.deleting document) with
        sourceLocks := Function.update before.sourceLocks call.plan.body.source (some process) } := by
  obtain ⟨validated, held⟩ := sound.calls process call under
  rw [loaded] at held
  obtain ⟨⟨locked, rfl⟩, other, stored, state⟩ := held
  cases found.symm.trans stored
  have deletion : record.deletion = some call.deletion := by
    rcases state with ⟨-, deletion⟩ | live
    · exact deletion
    · rw [deleting] at live
      cases live
  obtain ⟨ended, settled, ⟨registered, stored, storeId, incarnation, runId⟩, unreferenced⟩ :=
    Source.buildPlan_facts holds.1 (holds.2.2.2.2.2.1.trans validated.2.2.2)
  cases found.symm.trans stored
  have unrecorded := sound.unrecorded separates validated.1 found
    (.inl ⟨deleting, deletion, runId, absent⟩)
  refine ⟨sound.disposals, sound.once, fun path row member => (sound.kept path row member).same rfl rfl,
    sound.records, sound.references, ?_, sound.answers⟩
  refine World.Sound.updated sound (fun other call' apart supports => ?_) (fun call' same => ?_) rfl
  · refine supports.keep (fun locked' => ?_) (fun path locked' => ⟨?_, rfl⟩)
      (fun _ _ stored _ => stored) (fun _ known => known) (fun _ _ known => Or.inl known)
    · exact ⟨locked', rfl⟩
    · refine (Function.update_of_ne (fun same => ?_) _ _).trans locked'
      rw [same, free] at locked'
      cases locked'
  · cases same
    exact ⟨validated, ⟨locked, rfl⟩, Function.update_self _ _ _, ended, settled, absent,
      ⟨record, found, deleting, deletion, storeId, incarnation, runId⟩, unrecorded⟩

end

theorem World.Sound.delete (sound : before.Sound digests)
    (separates : ∀ left right, digests.plan left = digests.plan right → left.source = right.source)
    (disposedAt mutation : ℕ) (under : before.calls process = some (.disposing call))
    (deleting : call.phase = .deleting document) :
    World.Sound digests
      { before.goes process call (.recording document (call.tombstone disposedAt)
          (digests.tombstone (call.tombstone disposedAt))) with
        sources := Function.update before.sources call.plan.body.source
          ((before.sources call.plan.body.source).deleteRun (call.row digests disposedAt) mutation)
        sourceLocks := Function.update before.sourceLocks call.plan.body.source none
        disposals := before.disposals ++ [(call.plan.body.source, call.row digests disposedAt)] } := by
  obtain ⟨validated, held⟩ := sound.calls process call under
  rw [deleting] at held
  obtain ⟨⟨locked, rfl⟩, guards⟩ := held
  obtain ⟨record, found, state, deletion, storeId, incarnation, runId⟩ := guards.marker
  have fresh : ∀ row, (call.plan.body.source, row) ∈ before.disposals →
      row.runId ≠ call.plan.body.runId := by
    intro row member same
    have inside := Table.find?_key ((sound.disposals _ row).mpr member)
    rw [same, guards.present] at inside
    cases inside
  refine ⟨fun path row => ?_, ?_, fun path row member => ?_, fun later member disposed => ?_,
    sound.references, ?_, sound.answers⟩
  · show row ∈ (Function.update before.sources call.plan.body.source _ path).disposedRuns ↔
      (path, row) ∈ before.disposals ++ [(call.plan.body.source, call.row digests disposedAt)]
    rw [mem_append, mem_singleton, Prod.mk.injEq, ← sound.disposals]
    by_cases same : path = call.plan.body.source
    · subst same
      rw [Function.update_self]
      refine Table.mem_put.trans ⟨?_, ?_⟩
      · rintro (new | ⟨old, -⟩)
        · exact .inr ⟨rfl, new⟩
        · exact .inl old
      · rintro (old | ⟨-, new⟩)
        · exact .inr ⟨old, fresh row ((sound.disposals _ row).mp old)⟩
        · exact .inl new
    · rw [Function.update_of_ne same]
      exact ⟨Or.inl, fun either => either.resolve_right fun new => same new.1⟩
  · show (List.map _ (_ ++ [_])).Nodup
    rw [map_append]
    refine nodup_append.mpr ⟨sound.once, nodup_singleton _, fun key known other new => ?_⟩
    obtain ⟨⟨path, row⟩, member, rfl⟩ := mem_map.mp known
    rw [mem_singleton.mp new]
    intro same
    obtain ⟨rfl, equal⟩ := Prod.mk.inj same
    exact fresh row member equal
  · rcases mem_append.mp member with old | new
    · have kept := sound.kept path row old
      refine ⟨kept.signed, kept.named, ?_, kept.planned, kept.registered⟩
      show (Function.update before.sources call.plan.body.source _ path).rowsOf row.runId = .none
      by_cases same : path = call.plan.body.source
      · subst same
        rw [Function.update_self, Source.deleteRun_others mutation guards.settled.links
          (fresh row old)]
        exact kept.absent
      · rw [Function.update_of_ne same]
        exact kept.absent
    · cases mem_singleton.mp new
      refine ⟨rfl, rfl, ?_, ⟨call.plan.body, rfl, validated.1⟩,
        ⟨record, found, runId, Or.inl ⟨state, deletion⟩⟩⟩
      show (Function.update before.sources call.plan.body.source _ call.plan.body.source).rowsOf _ =
        .none
      rw [Function.update_self]
      exact Source.deleteRun_rowsOf _ (call.row digests disposedAt) mutation
  · obtain ⟨row, locator, inside, rest⟩ := sound.records later member disposed
    exact ⟨row, locator, mem_append_left _ inside, rest⟩
  · refine World.Sound.updated sound (fun other call' apart supports => ?_) (fun call' same => ?_) rfl
    · have elsewhere : ∀ {path : String}, before.sourceLocks path = some other →
          path ≠ call.plan.body.source := by
        rintro path locked' rfl
        exact apart (Option.some.inj (locked'.symm.trans guards.locked))
      refine supports.keep (fun locked' => ⟨locked', rfl⟩) (fun path locked' => ⟨?_, ?_⟩)
        (fun _ _ stored _ => stored) (fun _ known => mem_append_left _ known)
        (fun guards' disposal member => ?_)
      · exact (Function.update_of_ne (elsewhere locked') _ _).trans locked'
      · exact Function.update_of_ne (elsewhere locked') _ _
      · rcases mem_append.mp member with old | new
        · exact .inl old
        · refine Or.inr fun same => ?_
          rw [mem_singleton.mp new] at same
          have origin : call.origin = call'.origin := same
          obtain ⟨record', found', -, deletion', -⟩ := guards'.marker
          rw [← origin, found, Option.some.injEq] at found'
          subst found'
          rw [deletion, Option.some.injEq] at deletion'
          have plans : call.plan.planDigest = call'.plan.planDigest :=
            congrArg Deletion.planDigest deletion'
          have source : call'.plan.body.source = call.plan.body.source :=
            separates _ _ (supports.1.1.trans (plans.symm.trans validated.1.symm))
          exact elsewhere guards'.locked source
    · cases same
      exact ⟨validated, ⟨locked, rfl⟩, ⟨record, found, state, deletion⟩, ⟨rfl, rfl, rfl⟩,
        mem_append_right _ mem_cons_self⟩

theorem World.Sound.record (sound : before.Sound digests)
    (separates : ∀ left right, digests.plan left = digests.plan right → left.source = right.source)
    {tombstone : Tombstone} {authentication : String} {record : RunRecord}
    (under : before.calls process = some (.disposing call))
    (recording : call.phase = .recording document tombstone authentication)
    (found : document.runs.find? call.origin = some record) :
    World.Sound digests
      { before.ends process with
        registry := document.recorded record (call.locator digests tombstone authentication)
        answers := before.answers ++ [⟨call.operationId, call.plan, call.origin,
          call.locator digests tombstone authentication⟩] } := by
  obtain ⟨validated, held⟩ := sound.calls process call under
  rw [recording] at held
  obtain ⟨⟨locked, rfl⟩, ⟨other, stored, deleting, deletion⟩, own, committed⟩ := held
  cases found.symm.trans stored
  have named : record.originDigest = call.origin := Table.key_of_find? found
  have mine := sound.kept _ _ committed
  have runId : record.identity.runId = call.plan.body.runId := by
    obtain ⟨other, stored, same, -⟩ := mine.registered
    rw [own.2.1, found, Option.some.injEq] at stored
    subst stored
    exact same
  generalize settled : ({ record with
    state := .disposed, hotPath := call.plan.body.source, coldLocator := none, deletion := none,
    tombstone := some (call.locator digests tombstone authentication) } : RunRecord) = after
  have key : after.originDigest = call.origin := by
    rw [← settled]
    exact named
  have runs : (before.registry.recorded record (call.locator digests tombstone authentication)).runs =
      before.registry.runs.put after := by
    rw [← settled]
    rfl
  have others : ∀ origin, origin ≠ call.origin →
      (before.registry.recorded record (call.locator digests tombstone authentication)).runs.find?
        origin = before.registry.runs.find? origin := by
    intro origin apart
    rw [runs]
    exact Table.find?_put_other _ (key ▸ apart)
  have new : (before.registry.recorded record
      (call.locator digests tombstone authentication)).runs.find? call.origin = some after := by
    rw [runs, ← key]
    exact Table.find?_put_same _ after
  refine ⟨sound.disposals, sound.once, fun path row member => ?_, fun later member disposed => ?_,
    fun reference member later stored => ?_, ?_, fun answer member => ?_⟩
  · have kept := sound.kept path row member
    refine ⟨kept.signed, kept.named, kept.absent, kept.planned, ?_⟩
    by_cases same : row.tombstone.originDigest = call.origin
    · obtain ⟨other, stored, identity, state⟩ := kept.registered
      rw [same, found, Option.some.injEq] at stored
      subst stored
      have marked : record.deletion = some ⟨row.tombstone.operationId, row.tombstone.planDigest⟩ := by
        rcases state with ⟨-, marked⟩ | ⟨disposed, -⟩
        · exact marked
        · cases deleting.symm.trans disposed
      rw [deletion, Option.some.injEq] at marked
      have plans : call.plan.planDigest = row.tombstone.planDigest :=
        congrArg Deletion.planDigest marked
      obtain ⟨body, source, digest⟩ := kept.planned
      have one : call.plan.body.source = path :=
        (separates _ _ (validated.1.trans (plans.trans digest.symm))).trans source
      subst one
      have equal := Table.eq_of_key_eq ((sound.disposals _ row).mpr member)
        ((sound.disposals _ _).mpr committed) (identity.symm.trans runId)
      refine ⟨after, same ▸ new, ?_, Or.inr ⟨?_, call.locator digests tombstone authentication, ?_, ?_⟩⟩
      · rw [← settled]
        exact identity
      · rw [← settled]
      · rw [← settled]
        rfl
      · rw [equal]
        rfl
    · have registered := kept.registered
      rw [← others _ same] at registered
      exact registered
  · have stored := Table.find?_key member
    by_cases same : later.originDigest = call.origin
    · rw [same] at stored
      cases new.symm.trans stored
      refine ⟨⟨call.plan.body.runId, tombstone, authentication⟩,
        call.locator digests tombstone authentication, ?_, ?_, ?_, rfl, rfl⟩
      · rw [← settled]
        exact committed
      · rw [← settled]
        exact runId.symm
      · rw [← settled]
    · rw [others _ same] at stored
      exact sound.records later (Table.mem_of_find? stored) disposed
  · have old : reference ∈ before.registry.references := (mem_filter.mp member).1
    by_cases same : reference.target = call.origin
    · have live := sound.references reference old record (same ▸ found)
      rw [deleting] at live
      cases live
    · rw [others _ same] at stored
      exact sound.references reference old later stored
  · refine World.Sound.updated sound (fun other call' apart supports => ?_) (fun call' same => ?_) rfl
    · refine supports.keep (fun locked' => ?_) (fun path locked' => ⟨?_, rfl⟩)
        (fun guards old stored _ => ?_) (fun _ known => known) (fun _ _ known => Or.inl known)
      · exact absurd (Option.some.inj (locked'.symm.trans locked)) apart
      · show (if before.sourceLocks path = some process then none else before.sourceLocks path) = _
        rw [locked', if_neg fun same => apart (Option.some.inj same)]
      · refine (others _ fun same => ?_).trans stored
        exact guards.unrecorded _ committed (own.2.1.trans same.symm)
    · cases same
  · rcases mem_append.mp member with old | fresh
    · obtain ⟨later, stored, disposed, same⟩ := sound.answers answer old
      refine ⟨later, (others _ fun equal => ?_).trans stored, disposed, same⟩
      rw [equal, found, Option.some.injEq] at stored
      subst stored
      cases deleting.symm.trans disposed
    · rw [mem_singleton.mp fresh]
      refine ⟨after, new, ?_, ?_⟩
      · rw [← settled]
      · rw [← settled]

/-! ### All moves -/

theorem World.Sound.goes (sound : before.Sound digests) {own : Option Call}
    (calls : after.calls = Function.update before.calls process own)
    (registry : after.registry = before.registry) (sources : after.sources = before.sources)
    (disposals : after.disposals = before.disposals) (answers : after.answers = before.answers)
    (others : ∀ other call, other ≠ process → before.Supports digests other call →
      after.Supports digests other call)
    (mover : ∀ call, own = some (.disposing call) → after.Supports digests process call) :
    after.Sound digests := by
  refine sound.tends (registry ▸ .refl _) sources disposals (sound.updated others mover calls)
    fun answer member => ?_
  rw [answers] at member
  exact .inl member

theorem Move.sound (move : Move digests before actor after)
    (separates : ∀ left right, digests.plan left = digests.plan right → left.source = right.source)
    (sound : before.Sound digests) : after.Sound digests := by
  have unlocked : ∀ {registry : Registry} (free : before.registryLock = none)
      (tends : before.registry.Tends registry),
      World.Sound digests { before with registry } := fun free tends =>
    sound.tends tends rfl rfl
      (fun other call under => (sound.calls other call under).unlocked free tends rfl rfl rfl)
      fun _ member => Or.inl member
  cases move with
  | write free writes => exact sound.write free writes
  | closeScope free => exact unlocked free Registry.closeScope_tends
  | addReference free added => exact unlocked free (Registry.addReference_tends added)
  | registerArchive free registered => exact unlocked free (Registry.registerArchive_tends registered)
  | readRun header idle present known =>
    refine sound.goes rfl rfl rfl rfl rfl (fun _ _ _ supports => ?_) (fun _ same => by cases same)
    exact supports.unmoved rfl rfl rfl rfl rfl
  | registerRun under free registered =>
    have tends := Registry.registerRun_tends registered
    refine sound.tends tends rfl rfl (sound.updated (fun _ _ _ supports => ?_)
      (fun _ same => by cases same) rfl) fun _ member => Or.inl member
    exact supports.unlocked free tends rfl rfl rfl
  | dispose operationId idle validated =>
    refine sound.goes rfl rfl rfl rfl rfl (fun _ _ _ supports => ?_) (fun _ same => ?_)
    · exact supports.unmoved rfl rfl rfl rfl rfl
    · cases same
      exact ⟨validated, trivial⟩
  | replay under opened free found disposed known same =>
    refine sound.tends (.refl _) rfl rfl (sound.updated (fun _ _ apart supports => ?_)
      (fun _ same => by cases same) rfl) fun answer member => ?_
    · exact (supports.ends apart).unmoved rfl rfl rfl rfl rfl
    · rcases mem_append.mp member with old | new
      · exact .inl old
      · rw [mem_singleton.mp new]
        exact .inr ⟨_, found, disposed, known⟩
  | load under opened free found permitted =>
    refine sound.goes rfl rfl rfl rfl rfl (fun _ _ _ supports => ?_) (fun _ same => ?_)
    · refine supports.keep (fun locked => ?_) (fun _ locked => ⟨locked, rfl⟩)
        (fun _ _ found _ => found) (fun _ known => known) (fun _ _ known => Or.inl known)
      cases free.symm.trans locked
    · cases same
      have validated := (sound.calls _ _ under).1
      exact ⟨validated, ⟨rfl, rfl⟩, _, found, permitted.imp_right And.left⟩
  | find under loaded free found verified own =>
    obtain ⟨validated, held⟩ := sound.calls _ _ under
    rw [loaded] at held
    obtain ⟨holds, record, stored, state⟩ := held
    have committed := (sound.disposals _ _).mp (Table.mem_of_find? found)
    have named := Table.key_of_find? found
    refine sound.goes rfl rfl rfl rfl rfl (fun _ _ _ supports => ?_) (fun _ same => ?_)
    · exact supports.unmoved rfl rfl rfl rfl rfl
    · cases same
      refine ⟨validated, holds, ⟨record, stored, ?_⟩, own, named ▸ committed⟩
      rcases state with marked | live
      · exact marked
      · obtain ⟨other, known, -, gone⟩ := (sound.kept _ _ committed).registered
        rw [own.2.1, stored, Option.some.injEq] at known
        subst known
        rcases gone with ⟨deleting, -⟩ | ⟨disposed, -⟩
        · rw [deleting] at live
          cases live
        · rw [disposed] at live
          cases live
  | mark under loaded found present free absent recomputed =>
    exact sound.mark separates under loaded found present free absent recomputed
  | retry under loaded found deleting free absent holds =>
    exact sound.retry separates under loaded found deleting free absent holds
  | relock under marked free =>
    obtain ⟨validated, held⟩ := sound.calls _ _ under
    rw [marked] at held
    refine sound.goes rfl rfl rfl rfl rfl (fun _ _ _ supports => ?_) (fun _ same => ?_)
    · refine supports.keep (fun locked => ?_) (fun _ locked => ⟨locked, rfl⟩)
        (fun _ _ found _ => found) (fun _ known => known) (fun _ _ known => Or.inl known)
      cases free.symm.trans locked
    · cases same
      exact ⟨validated, ⟨rfl, rfl⟩,
        ⟨held.locked, held.ended, held.settled, held.present, held.marker, held.unrecorded⟩⟩
  | delete disposedAt mutation under deleting =>
    exact sound.delete separates disposedAt mutation under deleting
  | record under recording found => exact sound.record separates under recording found
  | fail process =>
    exact sound.goes rfl rfl rfl rfl rfl (fun _ _ apart supports => supports.ends apart)
      (fun _ same => by cases same)

theorem World.sound
    (separates : ∀ left right, digests.plan left = digests.plan right → left.source = right.source)
    (reachable : (disposalSystem digests).Reachable world) : world.Sound digests := by
  refine reachable.invariant (fun world => world.Sound digests) ?_ fun before after _ sound step => ?_
  · rintro state ⟨registry, fresh, -, -, idle, disposals, answers⟩
    refine ⟨fun path row => ?_, ?_, fun path row member => ?_, fun record member => ?_,
      fun reference member => ?_, fun process call under => ?_, fun answer member => ?_⟩
    · rw [fresh, disposals]
      exact ⟨fun member => absurd member not_mem_nil,
        fun member => absurd member not_mem_nil⟩
    · rw [disposals]
      exact nodup_nil
    · rw [disposals] at member
      cases member
    · rw [registry] at member
      cases member
    · rw [registry] at member
      cases member
    · rw [idle] at under
      cases under
    · rw [answers] at member
      cases member
  · obtain ⟨actor, move⟩ := step
    exact move.sound separates sound

/-! ### What is safe about disposal -/

/-- A Run is deleted together with the insertion of its signed tombstone, when it has ended, nothing
is left to do and nothing refers to it; other Runs stay. -/
structure World.Deletes (digests : Digests) (before after : World) (path : String)
    (row : DisposedRow) : Prop where
  appended : after.disposals = before.disposals ++ [(path, row)]
  signed : row.authentication = digests.tombstone row.tombstone
  store : ∃ mutation, after.sources = Function.update before.sources path
    ((before.sources path).deleteRun row mutation)
  ended : (before.sources path).Ended row.runId
  settled : (before.sources path).Settled row.runId
  unreferenced : before.registry.Unreferenced (before.sources path).token row.runId
    row.tombstone.originDigest
  others : ∀ other, other ≠ row.runId →
    (after.sources path).rowsOf other = (before.sources path).rowsOf other
  content : (after.sources path).contentObjects = (before.sources path).contentObjects

theorem Move.deletes (move : Move digests before actor after) (sound : before.Sound digests) :
    (after.disposals = before.disposals ∧ (actor = .registry → after.sources = before.sources)) ∨
      (actor = .registry ∧ ∃ path row, before.Deletes digests after path row) := by
  cases move with
  | write free writes => exact .inl ⟨rfl, fun same => by cases same⟩
  | delete disposedAt mutation under deleting =>
    rename_i process call document
    obtain ⟨validated, held⟩ := sound.calls _ _ under
    rw [deleting] at held
    obtain ⟨-, guards⟩ := held
    obtain ⟨record, found, state, -, identity⟩ := guards.marker
    refine Or.inr ⟨rfl, call.plan.body.source, call.row digests disposedAt, rfl, rfl,
      ⟨mutation, rfl⟩, guards.ended, guards.settled, ⟨⟨record, found, identity⟩,
        fun reference member same => ?_⟩, fun other apart => ?_, ?_⟩
    · have live := sound.references reference member record (same ▸ found)
      rw [state] at live
      cases live
    · show (Function.update before.sources call.plan.body.source _ call.plan.body.source).rowsOf _ = _
      rw [Function.update_self]
      exact Source.deleteRun_others mutation guards.settled.links apart
    · show (Function.update before.sources call.plan.body.source _
        call.plan.body.source).contentObjects = _
      rw [Function.update_self]
      rfl
  | _ => exact .inl ⟨rfl, fun _ => rfl⟩

theorem Move.references (move : Move digests before actor after) (sound : before.Sound digests) :
    ∀ reference ∈ after.registry.references, reference ∈ before.registry.references ∨
      ∀ record, before.registry.runs.find? reference.target = some record →
        record.state.gone = false := by
  cases move with
  | closeScope => exact Registry.closeScope_tends.references
  | addReference free added => exact (Registry.addReference_tends added).references
  | registerArchive free registered => exact (Registry.registerArchive_tends registered).references
  | registerRun under free registered => exact (Registry.registerRun_tends registered).references
  | mark under loaded =>
    have held := (sound.calls _ _ under).2
    rw [loaded] at held
    obtain ⟨⟨-, rfl⟩, -⟩ := held
    exact fun reference member => Or.inl member
  | record under recording =>
    have held := (sound.calls _ _ under).2
    rw [recording] at held
    obtain ⟨⟨-, rfl⟩, -⟩ := held
    exact fun reference member => Or.inl (mem_filter.mp member).1
  | _ => exact fun reference member => Or.inl member

/-- In every run, if plans of different stores have different digests: a store holds a signed
tombstone of a Run exactly when the Run was disposed there, once, with no row left; Runs are deleted
only where they have ended and nothing refers to them; and whoever is answered for an origin is
answered with the same tombstone. -/
theorem disposal_safe
    (separates : ∀ left right, digests.plan left = digests.plan right → left.source = right.source)
    (reachable : (disposalSystem digests).Reachable world) :
    (∀ path row, row ∈ (world.sources path).disposedRuns ↔ (path, row) ∈ world.disposals) ∧
    (world.disposals.map fun disposal => (disposal.1, disposal.2.runId)).Nodup ∧
    (∀ path row, row ∈ (world.sources path).disposedRuns →
      row.authentication = digests.tombstone row.tombstone ∧
        (world.sources path).rowsOf row.runId = .none) ∧
    (∀ record ∈ world.registry.runs, record.state = .disposed →
      ∃ row ∈ (world.sources record.hotPath).disposedRuns, row.runId = record.identity.runId ∧
        row.authentication = digests.tombstone row.tombstone ∧
        ∃ locator, record.tombstone = some locator ∧ locator.tombstone = row.tombstone) ∧
    (∀ actor next, Move digests world actor next →
      (next.disposals = world.disposals ∧ (actor = .registry → next.sources = world.sources)) ∨
        (actor = .registry ∧ ∃ path row, world.Deletes digests next path row)) ∧
    (∀ actor next, Move digests world actor next → ∀ reference ∈ next.registry.references,
      reference ∈ world.registry.references ∨
        ∀ record, world.registry.runs.find? reference.target = some record →
          record.state.gone = false) ∧
    ∀ first ∈ world.answers, ∀ second ∈ world.answers, first.origin = second.origin →
      first.locator = second.locator := by
  have sound := World.sound separates reachable
  refine ⟨sound.disposals, sound.once, fun path row member => ?_, fun record member disposed => ?_,
    fun _ _ move => move.deletes sound, fun _ _ move => move.references sound,
    fun first member second other same => ?_⟩
  · have kept := sound.kept path row ((sound.disposals path row).mp member)
    exact ⟨kept.signed, kept.absent⟩
  · obtain ⟨row, locator, committed, named, known, tombstone, -⟩ :=
      sound.records record member disposed
    exact ⟨row, (sound.disposals _ _).mpr committed, named, (sound.kept _ _ committed).signed,
      locator, known, tombstone⟩
  · obtain ⟨record, found, -, known⟩ := sound.answers first member
    obtain ⟨again, stored, -, locator⟩ := sound.answers second other
    rw [same, stored, Option.some.injEq] at found
    subst found
    exact Option.some.inj (known.symm.trans locator)

end Moves

/-! ### A Run that is disposed -/

def shortDigests : Digests where
  origin identity := identity.runId
  registry _ := ""
  plan body := body.source
  tombstone row := row.runId
  locator path _ _ _ _ := path

/-- A store with one Run, which has ended. -/
def endedStore : Source where
  token := ⟨"store", "first", 0⟩
  runs := [⟨"run", 1, .succeeded⟩]
  items := []
  history := []
  revisions := [⟨"run", 0⟩, ⟨"run", 1⟩]
  commands := []
  events := [⟨"run", 1, []⟩]
  subscriptions := []
  eventWatermarks := [⟨"run", ["1"]⟩]
  expiredRevisions := []
  links := []
  retentionTimes := [.event 1, .revision "run" 0, .revision "run" 1]
  executions := []
  recoveries := []
  outbox := []
  watches := []
  notifications := []
  results := []
  kernelExecutions := []
  sandboxJournals := 0
  contentObjects := []
  disposedRuns := ∅
  sequences := by decide

def unregistered : World :=
  ⟨⟨0, false, ∅, []⟩, fun _ => endedStore, none, fun _ => none, fun _ => none, [], []⟩

/-- The registry that knows the Run and all that refers to it. -/
def closedRegistry : Registry :=
  ⟨2, true, Table.put ∅ (Registry.fresh "run" ⟨"store", "first", "run", ""⟩ "path"), []⟩

def runPlan : Plan := endedStore.buildPlan "run" shortDigests "path" closedRegistry

def runRow : DisposedRow :=
  DisposalCall.row shortDigests ⟨runPlan, "run", "operation", .opened⟩ 0

/-- The Run is registered and disposed of: its store has its tombstone and none of its rows. -/
theorem disposal_safe_sample : ∃ world, (disposalSystem shortDigests).Reachable world ∧
    runRow ∈ (world.sources "path").disposedRuns ∧
    runRow.authentication = shortDigests.tombstone runRow.tombstone ∧
    (world.sources "path").rowsOf "run" = .none ∧
    ∃ record ∈ world.registry.runs, record.state = .disposed := by
  have start : (disposalSystem shortDigests).Reachable unregistered :=
    .start ⟨rfl, fun _ => rfl, rfl, fun _ => rfl, fun _ => rfl, rfl, rfl⟩
  have read := start.next ⟨.registry, @Move.readRun shortDigests unregistered 1 "path" "run" ""
    rfl rfl ⟨_, mem_cons_self, rfl⟩⟩
  have registered := read.next ⟨.registry, .registerRun (Function.update_self _ _ _) rfl rfl⟩
  have closed := registered.next ⟨.registry, .closeScope rfl⟩
  have validated : runPlan.validated shortDigests "run" := ⟨rfl, by decide, by decide, by decide⟩
  have opened := closed.next
    ⟨.registry, .dispose "operation" (Function.update_self _ _ _) validated⟩
  have loaded := opened.next
    ⟨.registry, .load (Function.update_self _ _ _) rfl rfl rfl (.inr ⟨rfl, rfl⟩)⟩
  have marked := loaded.next
    ⟨.registry, .mark (Function.update_self _ _ _) rfl rfl (by decide) rfl rfl rfl⟩
  have locked := marked.next ⟨.registry, .relock (Function.update_self _ _ _) rfl rfl⟩
  have deleted := locked.next ⟨.registry, .delete 0 0 (Function.update_self _ _ _) rfl⟩
  have recorded := deleted.next ⟨.registry, .record (Function.update_self _ _ _) rfl rfl⟩
  have safe := disposal_safe (fun _ _ same => same) recorded
  have inside : runRow ∈ (endedStore.deleteRun runRow 0).disposedRuns :=
    Table.mem_put.mpr (.inl rfl)
  obtain ⟨signed, absent⟩ := safe.2.2.1 "path" runRow inside
  exact ⟨_, recorded, inside, signed, absent, _, mem_cons_self, rfl⟩

end DispatcherSdk.Provenance
