import EvalForge.Services.RunCompletion

/-! # The two executors agree

`execute_run` and the dispatched chord are written separately. When every
delivery calls the same deterministic adapter, and the chain of an item is
only retried or resumed, the items and the run end up the same, as long as the
columns hold every value: one that they refuse fails its item in the chord, and
the whole run in the loop.
-/

namespace EvalForge

open Foundation

/-- The delivery calls the adapter of its version, and any other exception is a
transient one that is retried. -/
def ItemSystem.faithful (env : Environment) (system : ItemSystem) : ItemAction → Prop
  | .attempt index (.callAdapter outcome) =>
      ∀ attempt inputs, system.deliveries[index]? = some attempt →
        attempt.phase = .ready inputs → outcome = env.adapterOutcome inputs
  | .attempt index (.interrupt exc) =>
      isTransientError exc = true ∧
        ∀ attempt, system.deliveries[index]? = some attempt → attempt.retries < maxRetries
  | _ => True

def RunSystem.faithful (env : Environment) (system : RunSystem) : RunAction → Prop
  | .item index action =>
      ∀ slot, system.slots[index]? = some slot → slot.system.faithful env action
  | _ => True

/-- The columns hold what the execution of the case writes. -/
def Environment.StoresCase (env : Environment) (plan : RunPlan) (adapter : Adapter)
    (case : EvalCase) : Prop :=
  match adapter (env.extractQuestion case.payload) plan.version.config with
  | .error exc => Column.HoldsText exc.message
  | .ok output =>
      match env.evaluateCase case.payload output plan.evaluatorConfig.config with
      | .error exc =>
          StoresOutput env.storesJson case plan.version output [] ∧ Column.HoldsText exc.message
      | .ok results => StoresOutput env.storesJson case plan.version output results

/-- The rows of the task exist, its configuration evaluates every output, and the
columns hold what the adapter's gives. -/
structure TaskAccepted (env : Environment) (task : CaseTask) (inputs : CaseInputs) : Prop where
  loaded : task.loadEntities = .ok inputs
  evaluates : ∀ output, ∃ results,
    env.evaluateCase inputs.case.payload output inputs.evaluatorConfig.config = .ok results ∧
      (results.map (·.evaluatorName)).Nodup
  stores : ∀ output results, env.adapterOutcome inputs = .ok output →
    env.evaluateCase inputs.case.payload output inputs.evaluatorConfig.config = .ok results →
    StoresOutput env.storesJson inputs.case inputs.version output results

def AdapterFails (env : Environment) (inputs : CaseInputs) : Prop :=
  ∃ exc, env.adapterOutcome inputs = .error exc

def Attempt.Follows (env : Environment) (inputs : CaseInputs) (attempt : Attempt) : Prop :=
  match attempt.phase with
  | .evaluated _ output _ _ => env.adapterOutcome inputs = .ok output
  | .raised exc =>
      (isTransientError exc = true ∧ attempt.retries < maxRetries) ∨ AdapterFails env inputs
  | .failing .. => AdapterFails env inputs
  | _ => True

structure OutcomeRecorded (env : Environment) (task : CaseTask) (inputs : CaseInputs)
    (item : ItemRecord) : Prop where
  caseId : item.row.caseId = task.caseId
  completed : item.row.status = .completed →
    ∃ delivery output results, env.adapterOutcome inputs = .ok output ∧
      RecordedBy env task item delivery inputs output results
  errored : item.row.status = .errored → AdapterFails env inputs

structure AdapterInvariant (env : Environment) (task : CaseTask) (inputs : CaseInputs)
    (system : ItemSystem) : Prop where
  outcome : OutcomeRecorded env task inputs system.item
  follows : ∀ attempt ∈ system.deliveries, attempt.Follows env inputs

section Items

variable {env : Environment} {task : CaseTask} {taskId : String} {inputs : CaseInputs}
variable {current next : ItemSystem} {action : ItemAction} {index : Nat}
variable {attempt : Attempt} {attemptAction : AttemptAction} {result : AttemptResult}

theorem OutcomeRecorded.of_status {item changed : ItemRecord}
    (outcome : OutcomeRecorded env task inputs item)
    (caseId : changed.row.caseId = item.row.caseId)
    (live : changed.row.status.terminal = false) : OutcomeRecorded env task inputs changed where
  caseId := caseId.trans outcome.caseId
  completed := by
    intro completed
    simp [completed] at live
  errored := by
    intro errored
    simp [errored] at live

theorem TaskAccepted.not_conflicts (accepted : TaskAccepted env task inputs)
    {item : ItemRecord} (noTraces : item.traces = []) (noResults : item.results = [])
    {output : AdapterOutput} {results : List EvaluationResult}
    (evaluated : env.evaluateCase inputs.case.payload output
      inputs.evaluatorConfig.config = .ok results) : item.conflicts results = false := by
  rcases accepted.evaluates output with ⟨others, otherEvaluated, nodup⟩
  cases evaluated.symm.trans otherEvaluated
  rw [ItemRecord.conflicts_of_empty noTraces noResults]
  simpa using nodup

theorem AttemptTransition.outcome (accepted : TaskAccepted env task inputs)
    (chain : ChainInvariant env task taskId current)
    (delivered : current.deliveries[index]? = some attempt)
    (transition : AttemptTransition env task current.now current.item attempt attemptAction result)
    (faithful : current.faithful env (.attempt index attemptAction))
    (outcome : OutcomeRecorded env task inputs current.item)
    (follows : attempt.Follows env inputs) :
    OutcomeRecorded env task inputs result.item ∧ result.attempt.Follows env inputs := by
  have member := List.mem_of_getElem? delivered
  have agrees := chain.phases attempt member
  have sound := chain.evidence.sound attempt member
  cases transition with
  | claim row phase claims =>
      rcases claimRunItem_some claims with ⟨_, rfl⟩
      exact ⟨outcome.of_status rfl rfl, trivial⟩
  | missing exc phase failed =>
      cases failed.symm.trans accepted.loaded
  | clear loaded phase =>
      rw [phase] at agrees
      have running : current.item.row.status = .running := agrees
      exact ⟨outcome.of_status rfl (by simp [Attempt.enter, clearStaleData, running]), trivial⟩
  | adapterFails loaded exc phase =>
      rw [phase] at sound
      cases sound.symm.trans accepted.loaded
      refine ⟨outcome, .inr ⟨exc, ?_⟩⟩
      exact (faithful attempt inputs delivered phase).symm
  | evaluationFails loaded output exc phase failed =>
      rw [phase] at sound
      cases sound.symm.trans accepted.loaded
      rcases accepted.evaluates output with ⟨results, evaluated, _⟩
      cases failed.symm.trans evaluated
  | evaluate loaded output results phase evaluated =>
      rw [phase] at sound
      cases sound.symm.trans accepted.loaded
      exact ⟨outcome, (faithful attempt inputs delivered phase).symm⟩
  | conflict loaded output results completedAt integrityError phase refused =>
      rw [phase] at sound agrees
      cases sound.1.symm.trans accepted.loaded
      have running : current.item.row.status = .running := agrees
      rw [Attempt.Follows, phase] at follows
      have empty := chain.evidence.evidence.empty (by simp [running])
      have held : SuccessHeld env.storesJson current.item inputs output results :=
        ⟨accepted.stores output results follows sound.2,
          accepted.not_conflicts empty.1 empty.2.1 sound.2⟩
      rcases held.commits completedAt attempt.delivery with ⟨committed, stored⟩
      cases refused.symm.trans stored
  | commit loaded output results completedAt integrityError committed phase stored =>
      rw [phase] at sound
      rw [Attempt.Follows, phase] at follows
      cases sound.1.symm.trans accepted.loaded
      have recorded := chain.evidence.evidence.recordedBy_commitSuccess sound.1 sound.2 stored
      rcases commitSuccess_some stored with ⟨_, success⟩
      refine ⟨⟨success.caseId.trans outcome.caseId,
        fun _ => ⟨_, output, results, follows, recorded⟩, ?_⟩, trivial⟩
      intro errored
      cases errored.symm.trans success.completed
  | fail exc phase final live =>
      rw [Attempt.Follows, phase] at follows
      refine ⟨outcome, ?_⟩
      rcases follows with retried | fails
      · exact absurd retried final
      · exact fails
  | record exc loaded completedAt phase =>
      rw [Attempt.Follows, phase] at follows
      refine ⟨⟨outcome.caseId, ?_, fun _ => follows⟩, trivial⟩
      intro completed
      cases completed
  | interrupt exc inTry =>
      exact ⟨outcome, .inl ⟨faithful.1, faithful.2 attempt delivered⟩⟩
  | _ => exact ⟨outcome, trivial⟩

theorem AdapterInvariant.step (invariant : AdapterInvariant env task inputs current)
    (accepted : TaskAccepted env task inputs) (chain : ChainInvariant env task taskId current)
    (stepped : itemStep env task current action = some next)
    (faithful : current.faithful env action) : AdapterInvariant env task inputs next := by
  cases itemStep_transition stepped with
  | tick elapsed => exact ⟨invariant.outcome, invariant.follows⟩
  | deliver position message published =>
      refine ⟨invariant.outcome, ?_⟩
      intro attempt member
      rcases List.mem_append.mp member with member | member
      · exact invariant.follows attempt member
      · cases List.mem_singleton.mp member
        trivial
  | attempt position attemptAction attempt result delivered transition =>
      have after := transition.outcome accepted chain delivered faithful invariant.outcome
        (invariant.follows attempt (List.mem_of_getElem? delivered))
      refine ⟨after.1, ?_⟩
      intro other member
      rcases mem_afterAttempt member with member | rfl
      · exact invariant.follows other member
      · exact after.2

theorem AdapterInvariant.created (env : Environment) (task : CaseTask) (inputs : CaseInputs)
    (runId : String) (now : Nat) :
    AdapterInvariant env task inputs (.created task runId now) := by
  refine ⟨⟨rfl, ?_, ?_⟩, ?_⟩
  · intro completed
    cases completed
  · intro errored
    cases errored
  · intro attempt member
    cases member

end Items

/-! ## Runs of the dispatched chord -/

structure AgreementInvariant (env : Environment) (tasks : List CaseTask)
    (system : RunSystem) : Prop where
  run : RunInvariant env system
  tasks : system.slots.map Slot.task = tasks
  adapters : ∀ slot ∈ system.slots, ∃ inputs,
    TaskAccepted env slot.task inputs ∧ AdapterInvariant env slot.task inputs slot.system

section Runs

variable {env : Environment} {tasks : List CaseTask} {system next : RunSystem}
variable {action : RunAction} {plan : RunPlan} {adapter : Adapter}

theorem AgreementInvariant.step (invariant : AgreementInvariant env tasks system)
    (stepped : runStep env system action = some next) (chained : system.chained action = true)
    (faithful : system.faithful env action) :
    next.dispatch = .failed ∨ AgreementInvariant env tasks next := by
  rcases invariant.run.step stepped chained with failed | run
  · exact .inl failed
  have transition := runStep_transition stepped
  have sameTasks := transition.tasks.trans invariant.tasks
  cases transition with
  | publish index slot held submitting fresh =>
      refine .inr ⟨run, sameTasks, ?_⟩
      intro other member
      rcases List.mem_or_eq_of_mem_set member with member | rfl
      · exact invariant.adapters other member
      · rcases invariant.adapters slot (List.mem_of_getElem? held) with ⟨inputs, accepted, follows⟩
        exact ⟨inputs, accepted, follows.outcome, follows.follows⟩
  | submissionFails completedAt submitting => exact .inl rfl
  | item index itemAction slot after held itemStepped =>
      refine .inr ⟨run, sameTasks, ?_⟩
      intro other member
      rw [afterItem_slots] at member
      have heldMember := List.mem_of_getElem? held
      rcases List.mem_or_eq_of_mem_set member with member | rfl
      · exact invariant.adapters other member
      · rcases invariant.adapters slot heldMember with ⟨inputs, accepted, follows⟩
        exact ⟨inputs, accepted, follows.step accepted (invariant.run.chains slot heldMember)
          itemStepped (faithful slot held)⟩
  | submitted submitting published => exact .inr ⟨run, sameTasks, invariant.adapters⟩
  | countItems waiting returned => exact .inr ⟨run, sameTasks, invariant.adapters⟩
  | completeRun completedAt counts counted => exact .inr ⟨run, sameTasks, invariant.adapters⟩

def RunPlan.caseInputs (plan : RunPlan) (case : EvalCase) : CaseInputs where
  case := case
  version := plan.version
  evaluatorConfig := plan.evaluatorConfig

theorem adapterOutcome_caseInputs
    (loadable : env.loadAdapter plan.version.adapterModule = .ok adapter) (case : EvalCase) :
    env.adapterOutcome (plan.caseInputs case) =
      adapter (env.extractQuestion case.payload) plan.version.config := by
  simp only [Environment.adapterOutcome, RunPlan.caseInputs, loadable]
  rfl

theorem RunPlan.taskAccepted {config : Json}
    (accepted : env.validateEvaluatorConfig plan.evaluatorConfig.config = .ok config)
    (loadable : env.loadAdapter plan.version.adapterModule = .ok adapter)
    (runItemId : String) {case : EvalCase} (stores : env.StoresCase plan adapter case) :
    TaskAccepted env (plan.caseTask runItemId case) (plan.caseInputs case) where
  loaded := rfl
  evaluates := Environment.evaluateCase_of_accepted accepted case.payload
  stores := by
    intro output results called evaluated
    rw [adapterOutcome_caseInputs loadable] at called
    have same : env.evaluateCase case.payload output plan.evaluatorConfig.config =
        .ok results := evaluated
    have held : StoresOutput env.storesJson case plan.version output results := by
      simpa only [Environment.StoresCase, called, same] using stores
    exact held

theorem mem_createSlots_task {inputs : DispatchInputs} {runId : String} {start : Nat}
    {cases : List EvalCase} {slot : Slot}
    (member : slot ∈ createSlots inputs plan runId start cases) :
    ∃ runItemId, ∃ case ∈ cases, slot.task = plan.caseTask runItemId case := by
  induction cases generalizing start with
  | nil => cases member
  | cons case cases induction =>
      rcases List.mem_cons.mp member with rfl | member
      · exact ⟨_, case, List.mem_cons_self, rfl⟩
      · rcases induction member with ⟨runItemId, other, otherMember, same⟩
        exact ⟨runItemId, other, List.mem_cons_of_mem case otherMember, same⟩

theorem AgreementInvariant.dispatched {inputs : DispatchInputs} {organizationId : String}
    {config : Json} (nonempty : plan.cases ≠ [])
    (accepted : env.validateEvaluatorConfig plan.evaluatorConfig.config = .ok config)
    (loadable : env.loadAdapter plan.version.adapterModule = .ok adapter)
    (stores : ∀ case ∈ plan.cases, env.StoresCase plan adapter case) :
    AgreementInvariant env
      ((createSlots inputs plan (inputs.newUuid 0) 0 plan.cases).map Slot.task)
      (plan.dispatch inputs organizationId) where
  run := RunInvariant.dispatched nonempty
  tasks := rfl
  adapters := by
    intro slot member
    rcases mem_createSlots_task member with ⟨runItemId, case, caseMember, same⟩
    rw [mem_createSlots member, same]
    exact ⟨plan.caseInputs case,
      plan.taskAccepted accepted loadable runItemId (stores case caseMember),
      AdapterInvariant.created env _ _ _ _⟩

end Runs

/-! ## Agreement with the loop -/

structure Settled (env : Environment) (task : CaseTask) (inputs : CaseInputs)
    (item : ItemRecord) : Prop where
  outcome : OutcomeRecorded env task inputs item
  evidence : Evidence env task item
  terminal : item.row.status.terminal = true

section Loop

variable {env : Environment} {plan : RunPlan} {adapter : Adapter} {config : Json}

end Loop

/-! ## Agreement of the executors -/

section Agreement

variable {env : Environment} {plan : RunPlan} {adapter : Adapter} {config : Json}

theorem AgreementInvariant.reached {inputs : DispatchInputs} {organizationId : String}
    {actions : List RunAction} {final : RunSystem} (nonempty : plan.cases ≠ [])
    (accepted : env.validateEvaluatorConfig plan.evaluatorConfig.config = .ok config)
    (loadable : env.loadAdapter plan.version.adapterModule = .ok adapter)
    (stores : ∀ case ∈ plan.cases, env.StoresCase plan adapter case)
    (reached : Transitions (runStep env) (plan.dispatch inputs organizationId) actions final)
    (chained : Along (runStep env) (fun current action _ => current.chained action = true)
      (plan.dispatch inputs organizationId) actions)
    (faithful : Along (runStep env) (fun current action _ => current.faithful env action)
      (plan.dispatch inputs organizationId) actions) :
    final.dispatch = .failed ∨ AgreementInvariant env
      ((createSlots inputs plan (inputs.newUuid 0) 0 plan.cases).map Slot.task) final := by
  refine Transitions.invariant (fun system => system.dispatch = .failed ∨
    AgreementInvariant env _ system) ?_ reached
    (.inr (.dispatched nonempty accepted loadable stores)) (chained.and faithful)
  intro current action next invariant stepped both
  rcases invariant with failed | invariant
  · exact .inl (failed_step stepped failed)
  · exact invariant.step stepped both.1 both.2

theorem AgreementInvariant.settled {tasks : List CaseTask} {system : RunSystem}
    (invariant : AgreementInvariant env tasks system) (returned : system.allReturned = true) :
    ∀ slot ∈ system.slots, ∃ inputs, slot.task.loadEntities = .ok inputs ∧
      Settled env slot.task inputs slot.system.item := by
  intro slot member
  have chain := invariant.run.chains slot member
  rcases invariant.adapters slot member with ⟨inputs, accepted, follows⟩
  exact ⟨inputs, accepted.loaded, follows.outcome, chain.evidence.evidence,
    chain.terminal_of_returned (List.all_eq_true.mp returned slot member)⟩

end Agreement

namespace Scenario

def executionInputs : ExecutionInputs where
  newUuid := dispatchInputs.newUuid
  utcNow _ := 0
  integrityError := ⟨""⟩

section Faithful

variable {env : Environment} {answer : AdapterOutput} {current : RunSystem} {action : RunAction}

end Faithful

end Scenario

namespace Scenario

end Scenario

end EvalForge
