/-
This file proves the two promises that a managed Run is given.

Its budget: every lease that any of its executions was ever granted has been charged to
it, once, and there are never more of them than it was registered with. Its closure:
once a cancellation fence stands, nothing of the Run goes on any more, and behind a pause
barrier only the executions of the barrier's own drain set do, until a resume names the
barrier.
-/

import DispatcherSdk.ExecutionKernel.RunHistory

namespace DispatcherSdk.ExecutionKernel

open Library Library.Attempt Relation Option Bool List

/-! ### The leases of a Run -/

def Database.manages (database : Database) (runId executionId : Identifier) : Bool :=
  (database.managedExecutions.find? executionId).any fun member => member.runId = runId

/-- The number of leases that were granted to the executions of a Run. -/
def Database.leases (database : Database) (runId : Identifier) : ℕ :=
  database.events.countP fun event =>
    decide (event.eventType = .leased) && database.manages runId event.executionId

/-- Every lease of a Run that was not taken over from elsewhere has been charged to it. -/
def Database.Charged (database : Database) : Prop :=
  ∀ runId control, database.runControls.find? runId = some control →
    ¬ database.runs.Imported runId → control.claimsUsed = database.leases runId

variable {database : Database}

variable {executionId : Identifier}

theorem Database.manages_iff {runId : Identifier} :
    database.manages runId executionId = true ↔
      ∃ member, database.managedExecutions.find? executionId = some member ∧
        member.runId = runId := by
  unfold Database.manages
  cases database.managedExecutions.find? executionId <;> simp

variable {before after : Database}

theorem Database.leases_append {new : List EventRow}
    (members : after.managedExecutions = before.managedExecutions)
    (events : after.events = before.events ++ new)
    (owned : ∀ event ∈ new, event.executionId = executionId) (runId : Identifier) :
    after.leases runId = before.leases runId +
      if before.manages runId executionId = true then leasesGranted (new.map (·.toEventDraft))
      else 0 := by
  have same : ∀ name, after.manages runId name = before.manages runId name := fun name => by
    unfold Database.manages
    rw [members]
  unfold Database.leases
  rw [events, countP_append]
  simp only [same]
  congr 1
  unfold leasesGranted
  rw [countP_map]
  by_cases managed : before.manages runId executionId = true
  · rw [if_pos managed]
    refine countP_congr fun event member => ?_
    rw [owned event member, managed, Bool.and_true]
    rfl
  · rw [if_neg managed]
    refine countP_eq_zero.mpr fun event member => ?_
    rw [owned event member]
    simp [managed]

theorem Database.leases_congr {runId : Identifier} (events : after.events = before.events)
    (same : ∀ event ∈ before.events, after.manages runId event.executionId =
      before.manages runId event.executionId) :
    after.leases runId = before.leases runId := by
  unfold Database.leases
  rw [events]
  refine countP_congr fun event member => ?_
  rw [same event member]

theorem Database.Rooted.unlogged (rooted : database.Rooted)
    (missing : database.executions.find? executionId = none) :
    ∀ event ∈ database.events, event.executionId ≠ executionId := by
  intro event member own
  have logged : event.toEventDraft ∈ (database.ledger executionId).events :=
    mem_map_of_mem (mem_filter.mpr ⟨member, by simpa using own⟩)
  rw [rooted executionId missing] at logged
  cases logged

/-! ### Every lease is charged -/

theorem Database.spend_runs (database : Database) (executionId : Identifier) (need : Need) :
    (database.spend executionId need).runs =
      { database.runs with controls := (database.spend executionId need).runControls } := by
  cases need with
  | claim =>
    show (database.charged executionId).runs =
      { database.runs with controls := (database.charged executionId).runControls }
    rcases Database.charged_runs database executionId with
      ⟨_, same⟩ | ⟨_, _, _, _, same⟩ <;> rw [same] <;> rfl
  | nothing | work | opening => rfl

variable {now : Timestamp} {may : Identifier → Identifier → Prop}

theorem Work.charges (work : Work now before after) (ordered : before.runs.Ordered)
    (charged : before.Charged) : after.Charged := by
  cases work with
  | support supports =>
    intro runId control found imported
    rw [supports.runs.runControls] at found
    rw [supports.runs.runs] at imported
    rw [charged runId control found imported]
    refine (Database.leases_congr supports.lives.events fun event _ => ?_).symm
    unfold Database.manages
    rw [supports.runs.managedExecutions]
  | @move executionId need _ allowed rewrites =>
    obtain ⟨⟨new, events, told, leases⟩, -⟩ := rewrites.logs fun _ _ moved => moved.2.logs
    have owned : ∀ event ∈ new, event.executionId = executionId := fun event member =>
      (told event member).1
    rw [(before.spend_same executionId need).1.1] at events
    intro runId control found imported
    have spent := before.spend_runs executionId need
    have members : after.managedExecutions = before.managedExecutions :=
      rewrites.sameRuns.managedExecutions.trans (congrArg RunTables.members spent)
    have imports : ¬ before.runs.Imported runId := by
      rw [rewrites.sameRuns.runs, spent] at imported
      exact imported
    rw [Database.leases_append members events owned runId, leases]
    rw [rewrites.sameRuns.runControls] at found
    cases need with
    | nothing | work | opening =>
      rw [charged runId control found imports]
      simp
    | claim =>
      have found : (before.charged executionId).runControls.find? runId = some control := found
      rcases Database.charged_runs before executionId with
        ⟨uncontrolled, same⟩ | ⟨member, old, registered, stored, same⟩ <;> rw [same] at found
      · have foreign : before.manages runId executionId ≠ true := by
          intro managed
          obtain ⟨member, registered, -⟩ := Database.manages_iff.mp managed
          obtain ⟨other, stored⟩ := isSome_iff_exists.mp
            (ordered.controlled executionId member registered)
          have controlled : before.controlOf executionId = some other :=
            bind_eq_some_iff.mpr ⟨member, registered, stored⟩
          rw [uncontrolled] at controlled
          cases controlled
        rw [charged runId control found imports, if_neg foreign, Nat.add_zero]
      · have own : old.runId = member.runId := Table.key_of_find? stored
        have found : (before.runControls.put
            { old with claimsUsed := old.claimsUsed + 1 }).find? runId = some control := found
        rw [Table.find?_put] at found
        by_cases run : runId = old.runId
        · rw [if_pos run, Option.some.injEq] at found
          have managed : before.manages runId executionId = true :=
            Database.manages_iff.mpr ⟨member, registered, (run.trans own).symm⟩
          rw [← own, ← run] at stored
          rw [if_pos managed, if_pos rfl, ← charged runId old stored imports, ← found]
        · have foreign : before.manages runId executionId ≠ true := by
            intro managed
            obtain ⟨other, again, named⟩ := Database.manages_iff.mp managed
            rw [registered, Option.some.injEq] at again
            rw [own, again, named] at run
            exact run rfl
          rw [if_neg run] at found
          rw [charged runId control found imports, if_neg foreign, Nat.add_zero]

theorem Enrol.charges
    (enrol : Enrol may now before after) (rooted : before.Rooted) (charged : before.Charged) :
    after.Charged := by
  have rewritten : ∀ {executionId : Identifier} {relation : Ledger → Ledger → Prop},
      before.Rewrites executionId relation after →
      (∀ ledger next, relation ledger next → ledger.Extends now .nothing next) →
      after.Charged := by
    intro executionId relation rewrites extend
    obtain ⟨⟨new, events, told, leases⟩, -⟩ := rewrites.logs extend
    intro runId control found imported
    rw [rewrites.sameRuns.runControls] at found
    rw [rewrites.sameRuns.runs] at imported
    rw [Database.leases_append rewrites.sameRuns.managedExecutions events
      (fun event member => (told event member).1) runId, leases,
      charged runId control found imported]
    simp
  have quiet : before.SameLives after → before.SameRuns after → after.Charged := by
    intro lives runs runId control found imported
    rw [runs.runControls] at found
    rw [runs.runs] at imported
    rw [charged runId control found imported]
    refine (Database.leases_congr lives.events fun event _ => ?_).symm
    unfold Database.manages
    rw [runs.managedExecutions]
  cases enrol with
  | @register executionId runId generation fresh unregistered controlled =>
    intro name control found imported
    rw [charged name control found imported]
    symm
    refine @Database.leases_congr before _ _ rfl fun event member => ?_
    have different := rooted.unlogged fresh event member
    unfold Database.manages
    rw [show Table.find? (before.managedExecutions.put _) event.executionId = _ from
      Table.find?_put_other before.managedExecutions different]
  | submit active rewrites => exact rewritten rewrites fun _ _ moved => moved.logs
  | refuse rewrites =>
    refine rewritten rewrites fun _ _ moved => ?_
    obtain ⟨⟨middle, first, second⟩, -⟩ := moved
    exact first.logs.comp second.logs
  | bind permitted _ _ lives runs => exact quiet lives runs
  | attest => exact charged
  | support supports => exact quiet supports.lives supports.runs

/-- A move of the tables of Runs moves no execution to another Run, unless the Run is taken over, and
it charges nothing. -/
structure RunTables.Keeps (before after : RunTables) : Prop where
  members : ∀ executionId runId, ¬ after.Imported runId →
    ((∃ member, after.members.find? executionId = some member ∧ member.runId = runId) ↔
      ∃ member, before.members.find? executionId = some member ∧ member.runId = runId)
  controls : ∀ runId control, ¬ after.Imported runId →
    after.controls.find? runId = some control →
      (before.controls.find? runId = none ∧ control.claimsUsed = 0) ∨
        ∃ old, before.controls.find? runId = some old ∧ old.claimsUsed = control.claimsUsed
  imports : ∀ runId, before.Imported runId → after.Imported runId

theorem RunMove.keeps {before after : RunTables} (move : RunMove before after) :
    before.Keeps after := by
  have unmoved : ∀ (executionId runId : Identifier),
      ((∃ member, before.members.find? executionId = some member ∧ member.runId = runId) ↔
        ∃ member, before.members.find? executionId = some member ∧ member.runId = runId) :=
    fun _ _ => Iff.rfl
  have redrawn : ∀ {members : Table ManagedExecution.executionId}
      {allowed : ManagedExecution → Bool}, Redraws before.members members allowed →
      ∀ (executionId runId : Identifier),
        ((∃ member, members.find? executionId = some member ∧ member.runId = runId) ↔
          ∃ member, before.members.find? executionId = some member ∧ member.runId = runId) := by
    intro members allowed redraws executionId runId
    rw [redraws]
    cases before.members.find? executionId <;> simp
  have replaced : ∀ {old new : RunControl}, before.controls.find? old.runId = some old →
      ∀ runId control, (before.controls.put new).find? runId = some control →
      new.runId = old.runId → old.claimsUsed = new.claimsUsed →
        (before.controls.find? runId = none ∧ control.claimsUsed = 0) ∨
          ∃ old, before.controls.find? runId = some old ∧
            old.claimsUsed = control.claimsUsed := by
    intro old new stored runId control found same used
    rw [Table.find?_put] at found
    by_cases run : runId = new.runId
    · rw [if_pos run, Option.some.injEq] at found
      rw [run, same, ← found]
      exact .inr ⟨old, stored, used⟩
    · rw [if_neg run] at found
      exact .inr ⟨control, found, rfl⟩
  cases move with
  | @register runId maxClaims deadlineAt fresh =>
    refine ⟨fun name run _ => unmoved name run, fun name control _ found => ?_,
      fun _ imported => imported⟩
    rw [Table.find?_put] at found
    by_cases run : name = runId
    · rw [if_pos run, Option.some.injEq] at found
      rw [run, ← found]
      exact .inl ⟨fresh, rfl⟩
    · rw [if_neg run] at found
      exact .inr ⟨control, found, rfl⟩
  | set found opened drainless redraws =>
    exact ⟨fun name run _ => redrawn redraws name run,
      fun name control _ kept => replaced found name control kept rfl rfl, fun _ imported => imported⟩
  | fence found fresh fencing owned current =>
    exact ⟨fun name run _ => unmoved name run,
      fun name control _ kept => replaced found name control kept rfl rfl, fun _ imported => imported⟩
  | @«open» control receipt members found opened still fresh barrier owned current generation
      redraws =>
    exact ⟨fun name run _ => redrawn redraws name run,
      fun name control _ kept => replaced found name control kept rfl rfl, fun _ imported => imported⟩
  | close found pausing stored barred matching epoch fresh completes owned current redraws =>
    exact ⟨fun name run _ => redrawn redraws name run,
      fun name control _ kept => replaced found name control kept rfl rfl, fun _ imported => imported⟩
  | install found paused stored barred =>
    exact ⟨fun name run _ => unmoved name run,
      fun name control _ kept => replaced found name control kept rfl rfl, fun _ imported => imported⟩
  | resume found named paused installed source stored completed uncancelled =>
    exact ⟨fun name run _ => unmoved name run,
      fun name control _ kept => replaced found name control kept rfl rfl, fun _ imported => imported⟩
  | @adopt runId controls members imports controlled registered imported kept own =>
    have other : ∀ {name : Identifier},
        ¬ RunTables.Imported { before with controls, members, imports } name → name ≠ runId := by
      rintro name absent rfl
      exact absent imported
    refine ⟨fun name run absent => ?_, fun name control absent found => ?_, ?_⟩
    · show (∃ member, members.find? name = some member ∧ member.runId = run) ↔ _
      rcases registered name with same | ⟨missing, member, found, owned, -⟩
      · rw [same]
      · rw [found, missing]
        have different := other absent
        constructor
        · rintro ⟨_, ⟨⟩, named⟩
          exact absurd (named.symm.trans owned) different
        · rintro ⟨_, absurdity, -⟩
          cases absurdity
    · have found : controls.find? name = some control := found
      rcases controlled with ⟨-, rfl⟩ | ⟨-, control', named, -, -, rfl⟩
      · exact .inr ⟨control, found, rfl⟩
      · rw [Table.find?_put_other before.controls (named ▸ other absent)] at found
        exact .inr ⟨control, found, rfl⟩
    · rintro name ⟨receipt, member, named⟩
      exact ⟨receipt, kept receipt member, named⟩

theorem Govern.charges (govern : Govern before after) (ordered : before.runs.Ordered)
    (charged : before.Charged) : after.Charged := by
  cases govern with
  | support supports =>
    exact (@Work.support 0 _ _ supports).charges ordered charged
  | rule lives parents move =>
    have keeps := move.keeps
    intro runId control found imported
    have counted : after.leases runId = before.leases runId := by
      refine Database.leases_congr lives.events fun event _ => ?_
      rw [Bool.eq_iff_iff, Database.manages_iff, Database.manages_iff]
      exact keeps.members event.executionId runId imported
    rw [counted]
    rcases keeps.controls runId control imported found with ⟨fresh, unused⟩ | ⟨old, stored, same⟩
    · rw [unused]
      refine (countP_eq_zero.mpr fun event _ => ?_).symm
      have foreign : before.manages runId event.executionId ≠ true := by
        intro managed
        obtain ⟨member, registered, named⟩ := Database.manages_iff.mp managed
        have controlled := ordered.controlled event.executionId member registered
        rw [named, fresh] at controlled
        cases controlled
      simp [foreign]
    · rw [← same]
      exact charged runId old stored fun old => imported (keeps.imports runId old)

theorem Enrol.rooted (enrol : Enrol may now before after) (rooted : before.Rooted) : after.Rooted :=
  fun name => (rooted name).moves (enrol.moves name)

theorem Step.charges (step : Step now before after) (rooted : before.Rooted)
    (ordered : before.runs.Ordered) (charged : before.Charged) : after.Charged := by
  cases step with
  | work works =>
    have both : after.runs.Ordered ∧ after.Charged :=
      keeps_of_links (fun database : Database =>
        database.runs.Ordered ∧ database.Charged)
        (fun holds link => ⟨link.ordered holds.1, link.charges holds.1 holds.2⟩)
        ⟨ordered, charged⟩ works
    exact both.2
  | enrol enrols =>
    have both : after.Rooted ∧ after.Charged :=
      keeps_of_links (fun database : Database => database.Rooted ∧ database.Charged)
        (fun holds link => ⟨link.rooted holds.1, link.charges holds.1 holds.2⟩)
        ⟨rooted, charged⟩ enrols
    exact both.2
  | govern governs => exact governs.charges ordered charged

variable {state : KernelState}

theorem kernel_charged (reachable : kernel.Reachable state) : state.database.Charged := by
  refine reachable.invariant (fun state => state.database.Charged) ?_ ?_
  · rintro _ ⟨storeId, rfl⟩ runId control found
    cases found
  · intro state next reached charged step
    rcases (reachable_advances reached step).tables with same | ⟨now, -, -, moved⟩
    · rw [same]
      exact charged
    · exact moved.charges (kernel_rooted reached) (kernel_ordered reached) charged

theorem RunMove.untaken {before after : RunTables} (move : RunMove before after)
    {runId : Identifier} (controlled : (before.controls.find? runId).isSome)
    (untaken : ¬ before.Imported runId) : ¬ after.Imported runId := by
  cases move with
  | adopt taken registered imported kept own =>
    rintro ⟨receipt, member, named⟩
    rcases own receipt member with old | same
    · exact untaken ⟨receipt, old, named⟩
    · rw [named] at same
      subst same
      rcases taken with ⟨known, -⟩ | ⟨fresh, -⟩
      · exact untaken known
      · rw [fresh] at controlled
        cases controlled
  | register | set | fence | «open» | close | install | resume => exact untaken

/-- A Run that has a control and was not taken over from elsewhere. -/
def Database.Native (database : Database) (runId : Identifier) : Prop :=
  (database.runControls.find? runId).isSome ∧ ¬ database.runs.Imported runId

theorem Work.imports (work : Work now before after) :
    after.legacyImports = before.legacyImports := by
  cases work with
  | @move executionId need _ allowed rewrites =>
    exact rewrites.sameRuns.legacyImports.trans
      (congrArg RunTables.imports (before.spend_runs executionId need))
  | support supports => exact supports.runs.legacyImports

theorem Enrol.imports (enrol : Enrol may now before after) : after.legacyImports = before.legacyImports := by
  cases enrol with
  | register | attest => rfl
  | submit active rewrites => exact rewrites.sameRuns.legacyImports
  | refuse rewrites => exact rewrites.sameRuns.legacyImports
  | bind permitted _ _ lives runs => exact runs.legacyImports
  | support supports => exact supports.runs.legacyImports

theorem Step.untaken (step : Step now before after) {runId : Identifier}
    (native : before.Native runId) : ¬ after.runs.Imported runId := by
  have quiet : after.legacyImports = before.legacyImports → ¬ after.runs.Imported runId := by
    rintro same ⟨receipt, member, named⟩
    exact native.2 ⟨receipt, show receipt ∈ before.legacyImports from same ▸ member, named⟩
  cases step with
  | work works =>
    exact quiet (keeps_of_links (fun database : Database =>
      database.legacyImports = before.legacyImports)
      (fun holds link => link.imports.trans holds) rfl works)
  | enrol enrols =>
    exact quiet (keeps_of_links (fun database : Database =>
      database.legacyImports = before.legacyImports)
      (fun holds link => link.imports.trans holds) rfl enrols)
  | govern governs =>
    cases governs with
    | rule lives parents move => exact move.untaken native.1 native.2
    | support supports => exact quiet supports.runs.legacyImports

/-- The counter of claims stays within its limit, and counts the leases granted to a Run that was
not taken over. Every new lease is granted before the deadline, to an execution of the current
generation or to one that may drain. -/
theorem managed_claims_budgeted {state next : KernelState} (reachable : kernel.Reachable state)
    (step : kernel.step state next) :
    (∀ control ∈ state.database.runControls, control.claimsUsed ≤ control.maxClaims ∧
      (¬ state.database.runs.Imported control.runId →
        control.claimsUsed = state.database.leases control.runId ∧
          ¬ next.database.runs.Imported control.runId)) ∧
    ∃ new, next.database.events = state.database.events ++ new ∧
      ∀ event ∈ new, event.eventType = .leased → ∀ member,
        state.database.managedExecutions.find? event.executionId = some member →
          ∃ control, state.database.runControls.find? member.runId = some control ∧
            event.createdAt < control.deadlineAt ∧
            ((control.state = .active ∧ member.generation = control.generation) ∨
              (control.state = .pausing ∧ member.drainAllowed = true)) := by
  refine ⟨fun control member => ⟨?_, fun native => ⟨?_, ?_⟩⟩, ?_⟩
  · exact (kernel_ordered reachable).bounded control.runId control (Table.find?_key member)
  · exact kernel_charged reachable control.runId control (Table.find?_key member) native
  · have stored := Table.find?_key member
    rcases (reachable_advances reachable step).tables with same | ⟨now, -, -, moved⟩
    · rw [same]
      exact native
    · exact moved.untaken ⟨by rw [stored]; rfl, native⟩
  · rcases (reachable_advances reachable step).tables with same | ⟨now, -, -, moved⟩
    · exact ⟨[], by rw [same, append_nil], fun _ absent => absurd absent not_mem_nil⟩
    · obtain ⟨new, events, told⟩ := moved.news.events
      refine ⟨new, events, fun event here leased member found => ?_⟩
      obtain ⟨created, permits⟩ := told event here
      obtain ⟨control, stored, unexpired, -, admitted⟩ :=
        permits (by rw [leased]; exact nofun) member found
      rw [← created] at unexpired
      exact ⟨control, stored, unexpired, admitted.imp_right fun draining => draining.2⟩

def sampleManagedName : Identifier := ⟨"sdk-managed:job", by decide⟩

/-- The calls that register a Run with one claim, open it, and submit one command to it. -/
def sampleAdmitting : List (Operation × Environment) :=
  [(.govern (.registerRunControl sampleName 1 100), sampleEnvironment 0),
    (.govern (.setRunControl ⟨sampleName, 0, .active, 0, []⟩), sampleEnvironment 0),
    (.enrol (.submitManaged { sampleCommand with executionId := sampleManagedName } sampleName 0
      none), sampleEnvironment 0)]

def sampleAdmitted : KernelState := (KernelState.initial sampleName).after sampleAdmitting

def sampleClaim : ClaimRequest := ⟨sampleName, none, none, none, none, none⟩

/-- The Run of the example has paid for the lease of its execution. -/
theorem managed_claims_sample :
    (∃ control, (sampleAdmitted.after [(.work (.claim sampleClaim), sampleEnvironment 0)]
      ).database.runControls.find? sampleName = some control ∧ control.claimsUsed = 1) ∧
    ∀ control ∈ (sampleAdmitted.after [(.work (.claim sampleClaim), sampleEnvironment 0)]
      ).database.runControls, control.claimsUsed ≤ control.maxClaims := by
  have used : ((sampleAdmitted.after [(.work (.claim sampleClaim), sampleEnvironment 0)]
      ).database.runControls.find? sampleName).map (·.claimsUsed) = some 1 := by
    decide +kernel
  have reachable : kernel.Reachable
      (sampleAdmitted.after [(.work (.claim sampleClaim), sampleEnvironment 0)]) :=
    (reachable_after sampleName sampleAdmitting).run (run_after _ _)
  refine ⟨map_eq_some_iff.mp used, fun control member => ?_⟩
  exact ((managed_claims_budgeted reachable
    ⟨.work (.claim sampleClaim), sampleEnvironment 0, rfl⟩).1 control member).1

/-! ### Receipts that close a Run -/

theorem RunMove.pauses {before after : RunTables} (move : RunMove before after)
    {receipt : PauseReceipt} (stored : receipt ∈ before.pauses) : receipt ∈ after.pauses := by
  cases move with
  | fence found fresh => exact before.pauses.mem_put_of_fresh fresh stored
  | @«open» _ _ _ found opened still fresh => exact before.pauses.mem_put_of_fresh fresh stored
  | close found pausing kept barred matching epoch fresh =>
    exact before.pauses.mem_put_of_fresh fresh stored
  | register | set | install | resume | adopt => exact stored

theorem Work.pauses (work : Work now before after) :
    after.pauseReceipts = before.pauseReceipts := by
  cases work with
  | @move executionId need _ allowed rewrites =>
    exact rewrites.sameRuns.pauseReceipts.trans
      (congrArg RunTables.pauses (before.spend_runs executionId need))
  | support supports => exact supports.runs.pauseReceipts

theorem Enrol.pauses (enrol : Enrol may now before after) {receipt : PauseReceipt}
    (stored : receipt ∈ before.pauseReceipts) : receipt ∈ after.pauseReceipts := by
  have same : before.SameRuns after → receipt ∈ after.pauseReceipts := fun runs => by
    rw [runs.pauseReceipts]
    exact stored
  cases enrol with
  | register => exact stored
  | attest fresh => exact before.pauseReceipts.mem_put_of_fresh fresh stored
  | submit active rewrites => exact same rewrites.sameRuns
  | refuse rewrites => exact same rewrites.sameRuns
  | bind permitted _ _ lives runs => exact same runs
  | support supports => exact same supports.runs

theorem Step.pauses (step : Step now before after) {receipt : PauseReceipt}
    (stored : receipt ∈ before.pauseReceipts) : receipt ∈ after.pauseReceipts := by
  cases step with
  | work works =>
    refine keeps_of_links (fun database : Database =>
      receipt ∈ database.pauseReceipts) (fun holds link => ?_) stored works
    rw [link.pauses]
    exact holds
  | enrol enrols =>
    exact keeps_of_links (fun database : Database =>
      receipt ∈ database.pauseReceipts) (fun holds link => link.pauses holds) stored enrols
  | govern governs =>
    cases governs with
    | rule lives parents move => exact move.pauses stored
    | support supports =>
      rw [supports.runs.pauseReceipts]
      exact stored

theorem receipt_stays {last : KernelState} (reachable : kernel.Reachable state)
    (run : kernel.Run state last) {receipt : PauseReceipt}
    (stored : receipt ∈ state.database.pauseReceipts) : receipt ∈ last.database.pauseReceipts := by
  refine reachable.keeps (fun state => receipt ∈ state.database.pauseReceipts) ?_ stored run
  intro state next reached holds step
  rcases (reachable_advances reached step).tables with same | ⟨now, -, -, moved⟩
  · rw [same]
    exact holds
  · exact moved.pauses holds

/-! ### What is accepted -/

/-- An execution that is stored after and not before was cancelled at once, or no Run that it belongs
to was other than active. -/
def Database.Admits (before after : Database) : Prop :=
  ∀ executionId row, before.executions.find? executionId = none →
    after.executions.find? executionId = some row → row.state = .cancelled ∨
      ∀ member, after.managedExecutions.find? executionId = some member →
        ∃ control, before.runControls.find? member.runId = some control ∧ control.state = .active

theorem Database.Admits.of_same (same : after.executions = before.executions) : before.Admits after := by
  intro executionId row missing stored
  rw [same, missing] at stored
  cases stored

theorem Work.known (work : Work now before after)
    (missing : before.executions.find? executionId = none) :
    after.executions.find? executionId = none := by
  cases work with
  | @move name need _ allowed rewrites =>
    have same : (before.ledger executionId).row = none := missing
    rw [← before.ledger_spend name executionId need] at same
    obtain ⟨⟨row, stored⟩, -⟩ := rewrites.own
    have different : executionId ≠ name := by
      rintro rfl
      rw [same] at stored
      cases stored
    have kept := rewrites.foreign different
    exact (congrArg Ledger.row kept).trans same
  | support supports =>
    rw [supports.lives.executions]
    exact missing

theorem Enrol.controls (enrol : Enrol may now before after) : after.runControls = before.runControls := by
  cases enrol with
  | register | attest => rfl
  | submit active rewrites => exact rewrites.sameRuns.runControls
  | refuse rewrites => exact rewrites.sameRuns.runControls
  | bind permitted _ _ lives runs => exact runs.runControls
  | support supports => exact supports.runs.runControls

theorem Move.cancelled {ledger after : Ledger} {need : Need} (move : Move now ledger need after)
    {row next : ExecutionRow} (stored : ledger.row = some row)
    (cancelled : row.state = .cancelled) (reached : after.row = some next) :
    next.state = .cancelled := by
  obtain ⟨kept, -⟩ := move.ended stored (by rw [cancelled]; rfl)
  rw [kept, Option.some.injEq] at reached
  rw [← reached, cancelled]

theorem Enrol.admits {first : Database} (enrol : Enrol may now before after)
    (same : before.runControls = first.runControls) (admits : first.Admits before) :
    first.Admits after := by
  intro executionId row missing stored
  have kept : after.executions.find? executionId = before.executions.find? executionId →
      after.managedExecutions.find? executionId = before.managedExecutions.find? executionId →
      row.state = .cancelled ∨
        ∀ member, after.managedExecutions.find? executionId = some member →
          ∃ control, first.runControls.find? member.runId = some control ∧
            control.state = .active := by
    intro execution member
    rw [execution] at stored
    rw [member]
    exact admits executionId row missing stored
  have lives : before.SameLives after → before.SameRuns after → _ := fun lives runs =>
    kept (by rw [lives.executions]) (by rw [runs.managedExecutions])
  have foreign : ∀ {name : Identifier} {relation : Ledger → Ledger → Prop},
      before.Rewrites name relation after → executionId ≠ name → _ := fun rewrites different =>
    kept (congrArg Ledger.row (rewrites.foreign different))
      (by rw [rewrites.sameRuns.managedExecutions])
  cases enrol with
  | @register name runId generation fresh unregistered controlled =>
    have stored : before.executions.find? executionId = some row := stored
    have different : executionId ≠ name := by
      rintro rfl
      rw [fresh] at stored
      cases stored
    exact kept rfl (Table.find?_put_other before.managedExecutions different)
  | @submit name _ active rewrites =>
    by_cases own : executionId = name
    · subst own
      cases old : before.executions.find? executionId with
      | some previous =>
        rcases admits executionId previous missing old with cancelled | active
        · exact .inl (rewrites.own.cancelled old cancelled stored)
        · refine Or.inr fun member found => ?_
          rw [rewrites.sameRuns.managedExecutions] at found
          exact active member found
      | none =>
        refine Or.inr fun member found => ?_
        rw [rewrites.sameRuns.managedExecutions] at found
        rw [← same]
        exact active member found
    · exact foreign rewrites own
  | @refuse name _ rewrites =>
    by_cases own : executionId = name
    · subst own
      obtain ⟨-, next, reached, cancelled⟩ := rewrites.own
      have stored : (after.ledger executionId).row = some row := stored
      rw [reached, Option.some.injEq] at stored
      rw [← stored]
      exact .inl cancelled
    · exact foreign rewrites own
  | bind permitted _ _ same runs => exact lives same runs
  | attest => exact kept rfl rfl
  | support supports => exact lives supports.lives supports.runs

theorem Step.admits (step : Step now before after) : before.Admits after := by
  cases step with
  | work works =>
    intro executionId row missing stored
    have absent : after.executions.find? executionId = none :=
      keeps_of_links (fun database : Database =>
        database.executions.find? executionId = none)
        (fun holds link => link.known holds) missing works
    rw [absent] at stored
    cases stored
  | enrol enrols =>
    have both : after.runControls = before.runControls ∧ before.Admits after :=
      keeps_of_links (fun database : Database =>
        database.runControls = before.runControls ∧ before.Admits database)
        (fun holds link => ⟨link.controls.trans holds.1, link.admits holds.1 holds.2⟩)
        ⟨rfl, .of_same rfl⟩ enrols
    exact both.2
  | govern governs =>
    cases governs with
    | rule lives => exact .of_same lives.executions
    | support supports => exact .of_same supports.lives.executions

/-! ### Behind a fence and behind a barrier -/

/-- In a step nothing of a Run is leased, started, renewed, prepared, begun or bound, and what is
accepted for it is cancelled at once. -/
structure Database.Quiet (before after : Database) (runId : Identifier) : Prop where
  events : ∃ new, after.events = before.events ++ new ∧ ∀ event ∈ new,
    before.manages runId event.executionId = true →
      event.eventType ≠ .leased ∧ event.eventType ≠ .started ∧ event.eventType ≠ .leaseRenewed
  effects : ∃ new, after.effectEvents = before.effectEvents ++ new ∧ ∀ event ∈ new,
    before.manages runId event.executionId = true → event.eventType ≠ .prepared ∧
      event.eventType ≠ .repreparedAfterNotApplied ∧ event.eventType ≠ .performClaimed
  children : ∀ executionId binding, before.manages runId binding.executionId = true →
    after.parentOf executionId = some binding → before.parentOf executionId = some binding
  arrivals : ∀ executionId row, after.manages runId executionId = true →
    before.executions.find? executionId = none →
      after.executions.find? executionId = some row → row.state = .cancelled

/-- In a step only the drain set of a barrier is leased, started or renewed, while the Run is being
paused; no effect is prepared or begun and no child bound. -/
structure Database.Drains (before after : Database) (receipt : PauseReceipt) : Prop where
  events : ∃ new, after.events = before.events ++ new ∧ ∀ event ∈ new,
    before.manages receipt.runId event.executionId = true →
      event.eventType = .leased ∨ event.eventType = .started ∨ event.eventType = .leaseRenewed →
        event.executionId ∈ receipt.drainIds ∧ ∃ member control,
          before.managedExecutions.find? event.executionId = some member ∧
          before.runControls.find? receipt.runId = some control ∧
          member.generation = receipt.generation ∧ control.generation = receipt.generation ∧
          control.state = .pausing
  effects : ∃ new, after.effectEvents = before.effectEvents ++ new ∧ ∀ event ∈ new,
    before.manages receipt.runId event.executionId = true → event.eventType ≠ .prepared ∧
      event.eventType ≠ .repreparedAfterNotApplied ∧ event.eventType ≠ .performClaimed
  children : ∀ executionId binding, before.manages receipt.runId binding.executionId = true →
    after.parentOf executionId = some binding → before.parentOf executionId = some binding

theorem EffectEventType.need_nothing {eventType : EffectEventType}
    (free : eventType.need = .nothing) : eventType ≠ .prepared ∧
      eventType ≠ .repreparedAfterNotApplied ∧ eventType ≠ .performClaimed := by
  cases eventType <;> simp_all [EffectEventType.need]

theorem EventType.need_nothing {eventType : EventType} (free : eventType.need = .nothing) :
    eventType ≠ .leased ∧ eventType ≠ .started ∧ eventType ≠ .leaseRenewed := by
  cases eventType <;> simp_all [EventType.need]

theorem RunTables.Ordered.prohibits (ordered : database.runs.Ordered)
    {runId : Identifier} {drains : Bool}
    (fenced : database.runs.Fenced runId) (managed : database.manages runId executionId = true) :
    ¬ database.Permits executionId now drains := by
  intro permits
  obtain ⟨member, found, named⟩ := Database.manages_iff.mp managed
  obtain ⟨control, stored, -, -, admitted⟩ := permits member found
  rw [named] at stored
  have paused := ordered.fenced runId control fenced stored
  rcases admitted with ⟨active, -⟩ | ⟨-, pausing, -⟩
  · rw [active] at paused
    cases paused
  · rw [pausing] at paused
    cases paused

theorem RunTables.Ordered.restricts (ordered : database.runs.Ordered) {receipt : PauseReceipt}
    {drains : Bool}
    (stored : receipt ∈ database.pauseReceipts) (barrier : receipt.isPauseBarrier = true)
    (unresolved : ¬ database.runs.Resolved receipt)
    (managed : database.manages receipt.runId executionId = true)
    (permits : database.Permits executionId now drains) :
    drains = true ∧ executionId ∈ receipt.drainIds ∧ ∃ member control,
      database.managedExecutions.find? executionId = some member ∧
      database.runControls.find? receipt.runId = some control ∧
      member.generation = receipt.generation ∧ control.generation = receipt.generation ∧
      control.state = .pausing := by
  obtain ⟨member, found, named⟩ := Database.manages_iff.mp managed
  obtain ⟨control, controlled, -, closed, admitted⟩ := permits member found
  rw [named] at controlled closed
  have unlisted : receipt ∈ database.unresolvedBarriers receipt.runId :=
    Database.mem_unresolvedBarriers.mpr ⟨stored, rfl, unresolved⟩
  obtain ⟨other, current, again, same, -, generation, allowed, pausing, passes⟩ :=
    Database.drainBarrierAllows_iff.mp (closed (Database.hasUnresolved_iff.mpr ⟨_, unlisted⟩))
  rw [found, Option.some.injEq] at again
  rw [controlled, Option.some.injEq] at same
  subst again same
  have passed := passes receipt unlisted
  rw [PauseReceipt.passes, and_eq_true, and_eq_true, beq_iff_eq] at passed
  obtain ⟨listed, -, source⟩ := ordered.listed executionId member control receipt found allowed
    (named ▸ controlled) pausing stored barrier named.symm passed.1.2
  refine ⟨?_, listed, member, control, found, controlled, ?_, source.symm, pausing⟩
  · rcases admitted with ⟨active, -⟩ | ⟨draining, -⟩
    · rw [pausing] at active
      cases active
    · exact draining
  · rw [generation, source]

theorem Step.quiet {before after : Database} (step : Step now before after)
    (ordered : before.runs.Ordered) {runId : Identifier} (fenced : before.runs.Fenced runId) :
    before.Quiet after runId := by
  have news := step.news
  refine ⟨?_, ?_, ?_, ?_⟩
  · obtain ⟨new, events, told⟩ := news.events
    refine ⟨new, events, fun event member managed => EventType.need_nothing ?_⟩
    by_contra needs
    exact ordered.prohibits fenced managed ((told event member).2 needs)
  · obtain ⟨new, events, told⟩ := news.effectEvents
    refine ⟨new, events, fun event member managed => EffectEventType.need_nothing ?_⟩
    by_contra needs
    exact ordered.prohibits fenced managed ((told event member).2 needs)
  · intro executionId binding managed bound
    rcases news.parents executionId binding bound with old | permits
    · exact old
    · exact absurd permits (ordered.prohibits fenced managed)
  · intro executionId row managed missing stored
    obtain ⟨member, found, named⟩ := Database.manages_iff.mp managed
    rcases step.admits executionId row missing stored with cancelled | active
    · exact cancelled
    · obtain ⟨control, controlled, active⟩ := active member found
      rw [named] at controlled
      have paused := ordered.fenced runId control fenced controlled
      rw [active] at paused
      cases paused

theorem Step.drains {before after : Database} (step : Step now before after)
    (ordered : before.runs.Ordered) {receipt : PauseReceipt}
    (stored : receipt ∈ before.pauseReceipts) (barrier : receipt.isPauseBarrier = true)
    (unresolved : ¬ before.runs.Resolved receipt) : before.Drains after receipt := by
  have news := step.news
  refine ⟨?_, ?_, ?_⟩
  · obtain ⟨new, events, told⟩ := news.events
    refine ⟨new, events, fun event member managed working => ?_⟩
    have needs : event.eventType.need ≠ .nothing := by
      intro free
      obtain ⟨unleased, unstarted, unrenewed⟩ := EventType.need_nothing free
      exact working.elim unleased fun other => other.elim unstarted unrenewed
    exact (ordered.restricts stored barrier unresolved managed ((told event member).2 needs)).2
  · obtain ⟨new, events, told⟩ := news.effectEvents
    refine ⟨new, events, fun event member managed => EffectEventType.need_nothing ?_⟩
    by_contra needs
    have draining := ordered.restricts stored barrier unresolved managed
      ((told event member).2 needs)
    cases draining.1
  · intro executionId binding managed bound
    rcases news.parents executionId binding bound with old | permits
    · exact old
    · cases (ordered.restricts stored barrier unresolved managed permits).1

/-! ### The operations that close a Run -/

variable {environment : Environment} {receipt : PauseReceipt}

theorem fenceCancelledRun_stores {request : FenceRequest}
    (answered : (fenceCancelledRun request environment state).1 = .ok receipt) :
    receipt ∈ (fenceCancelledRun request environment state).2.database.pauseReceipts ∧
      receipt.runId = request.runId ∧ receipt.isCancellationFence = true := by
  unfold fenceCancelledRun at answered ⊢
  split at answered
  · cases answered
  · refine transaction_answers (fun receipt next =>
      receipt ∈ next.pauseReceipts ∧ receipt.runId = request.runId ∧
        receipt.isCancellationFence = true) (fun now session _ => ?_) answered
    unfold fenceCancelledRunBody
    refine ensures_bind (ensures_ask (then_check fun _ _ => ensures_bind ?_))
    unfold fenceCancelledRunBody.record
    refine then_read ?_
    cases known : state.database.pauseReceipts.find? request.operationId with
    | some receipt =>
      refine then_require fun same => ensures_pure (ensures_bind ?_)
      exact checked fun _ _ => ensures_pure ⟨Table.mem_of_find? known, same.1, same.2.2.2.1⟩
    | none =>
      refine then_expect fun control _ => ?_
      refine then_require fun _ => ensures_bind (ensures_modify ?_)
      refine ensures_bind (ensures_modify (ensures_bind (insertPauseReceipt_ensures ?_)))
      refine ensures_pure (then_check fun _ _ => ensures_pure ?_)
      exact ⟨Table.mem_put.mpr (.inl rfl), rfl, rfl⟩

theorem prepareControlPause_stores {request : PauseRequest}
    (answered : (prepareControlPause request environment state).1 = .ok receipt) :
    receipt ∈ (prepareControlPause request environment state).2.database.pauseReceipts ∧
      receipt.operationId = request.operationId ∧ receipt.runId = request.runId ∧
      receipt.drainIds = request.drainIds ∧ receipt.isPauseBarrier = true := by
  unfold prepareControlPause at answered ⊢
  split at answered
  · cases answered
  · refine transaction_answers (fun receipt next =>
      receipt ∈ next.pauseReceipts ∧ receipt.operationId = request.operationId ∧
        receipt.runId = request.runId ∧ receipt.drainIds = request.drainIds ∧
          receipt.isPauseBarrier = true) (fun now session _ => ?_) answered
    unfold prepareControlPauseBody
    refine then_check fun _ _ => then_require fun _ => ?_
    refine then_check fun _ _ => then_read ?_
    cases known : state.database.pauseReceipts.find? request.operationId with
    | some receipt =>
      dsimp only
      unfold replayPause
      refine then_require fun same => then_read ?_
      refine then_check fun _ _ => ensures_pure ?_
      exact ⟨Table.mem_of_find? known, Table.key_of_find? known, same.1, same.2.2.2.2.1,
        same.2.2.2.1⟩
    | none =>
      dsimp only
      unfold openBarrier
      refine then_read (then_require fun _ => ?_)
      refine then_expect fun control _ => ?_
      refine then_require fun _ => then_require fun _ => ?_
      refine then_check fun _ _ => then_require fun _ => ?_
      refine ensures_bind (ensures_modify (ensures_bind (ensures_modify (ensures_bind ?_))))
      refine insertPauseReceipt_ensures (then_check fun _ _ => ?_)
      refine then_check fun _ _ => ensures_pure ?_
      exact ⟨Table.mem_put.mpr (.inl rfl), rfl, rfl, rfl, rfl⟩

/-- After a cancellation fence nothing of its Run goes on; after a barrier, until a resume names it,
only its drain set does. -/
theorem closed_runs_admit_nothing {state : KernelState} (reachable : kernel.Reachable state)
    (environment : Environment) :
    (∀ request receipt last next, (fenceCancelledRun request environment state).1 = .ok receipt →
      kernel.Run (fenceCancelledRun request environment state).2 last → kernel.step last next →
        last.database.Quiet next.database request.runId) ∧
    ∀ request receipt last next, (prepareControlPause request environment state).1 = .ok receipt →
      kernel.Run (prepareControlPause request environment state).2 last → kernel.step last next →
      (∀ resume ∈ last.database.resumeReceipts, resume.decision.runId = request.runId →
        resume.decision.barrierOperationId ≠ request.operationId) →
        (receipt.operationId = request.operationId ∧ receipt.runId = request.runId ∧
          receipt.drainIds = request.drainIds) ∧ last.database.Drains next.database receipt := by
  refine ⟨fun request receipt last next answered run step => ?_,
    fun request receipt last next answered run step unresumed => ?_⟩
  · obtain ⟨stored, own, fencing⟩ := fenceCancelledRun_stores answered
    have fencedState : kernel.Reachable (fenceCancelledRun request environment state).2 :=
      reachable.next ⟨.govern (.fenceCancelledRun request), environment, rfl⟩
    have reached := fencedState.run run
    have fenced : last.database.runs.Fenced request.runId :=
      ⟨receipt, receipt_stays fencedState run stored, own, fencing⟩
    have ordered := kernel_ordered reached
    rcases (reachable_advances reached step).tables with same | ⟨now, -, -, moved⟩
    · rw [same]
      exact @Step.quiet 0 _ _ (.work .refl) ordered _ fenced
    · exact moved.quiet ordered fenced
  · obtain ⟨stored, named, own, drains, barrier⟩ := prepareControlPause_stores answered
    have barredState : kernel.Reachable (prepareControlPause request environment state).2 :=
      reachable.next ⟨.govern (.prepareControlPause request), environment, rfl⟩
    have reached := barredState.run run
    have kept := receipt_stays barredState run stored
    have ordered := kernel_ordered reached
    have unresolved : ¬ last.database.runs.Resolved receipt := by
      rintro ⟨resume, resumed, sameRun, asBarrier | asCompletion⟩
      · exact unresumed resume resumed (sameRun.trans own) (asBarrier.trans named)
      · obtain ⟨-, completion, found, completed⟩ := ordered.resumed resume resumed
        have other : last.database.runs.pauses.find? receipt.operationId = some receipt :=
          Table.find?_key kept
        rw [asCompletion, other, Option.some.injEq] at found
        rw [← found, (PauseReceipt.barrier_kind barrier).2] at completed
        cases completed
    refine ⟨⟨named, own, drains⟩, ?_⟩
    rcases (reachable_advances reached step).tables with same | ⟨now, -, -, moved⟩
    · rw [same]
      exact @Step.drains 0 _ _ (.work .refl) ordered _ kept barrier unresolved
    · exact moved.drains ordered kept barrier unresolved

def sampleHost : Environment :=
  { sampleEnvironment 0 with
    workerCredential := some ⟨0⟩
    authorityVerifier := some fun _ _ => some
      { principal := sampleName, expiresAt := 100
        permissions := [(sampleName, "kernel:cancel")]
        worker := none, drainAdmission := none, drainPause := none, controlLease := none
        globalAdmission := none, initialAdmissionReceipt := none, budgetAdmissions := []
        adoption := none, decision := none, activation := none, resume := none
        supervisorResolution := none, supervisorReconciliation := none } }

def sampleFence : FenceRequest := ⟨sampleName, sampleName, 1, 0⟩

/-- Behind the fence of the example a claim leaves the Run quiet. -/
theorem closed_runs_sample : ∃ receipt,
    (fenceCancelledRun sampleFence sampleHost sampleAdmitted).1 = .ok receipt ∧
    (fenceCancelledRun sampleFence sampleHost sampleAdmitted).2.database.Quiet
      ((WorkCall.claim sampleClaim).apply (sampleEnvironment 0)
        (fenceCancelledRun sampleFence sampleHost sampleAdmitted).2).database sampleName := by
  have answered : ((fenceCancelledRun sampleFence sampleHost sampleAdmitted).1.toOption).isSome =
      true := by
    decide +kernel
  cases outcome : (fenceCancelledRun sampleFence sampleHost sampleAdmitted).1 with
  | error failure =>
    rw [outcome] at answered
    cases answered
  | ok receipt =>
    exact ⟨receipt, rfl, (closed_runs_admit_nothing (reachable_after sampleName sampleAdmitting)
      sampleHost).1 sampleFence receipt _ _ outcome .refl
        ⟨.work (.claim sampleClaim), sampleEnvironment 0, rfl⟩⟩

end DispatcherSdk.ExecutionKernel
