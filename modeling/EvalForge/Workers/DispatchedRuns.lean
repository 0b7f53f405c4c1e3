import EvalForge.Services.ExecutedRows
import EvalForge.Workers.Cluster

/-! # What is read of dispatched runs

In every state of the server and its workers, the endpoints and the metrics read a
dispatched run as its workers have left it. A run that has nothing left to do agrees
with its stored items and their evidence.
-/

namespace EvalForge

open Foundation

/-! ## Cases of a run -/

section

variable {env : Environment} {system next : RunSystem} {action : RunAction}

theorem AttemptTransition.caseId {task : CaseTask} {now : Nat} {item : ItemRecord}
    {attempt : Attempt} {attemptAction : AttemptAction} {result : AttemptResult}
    (transition : AttemptTransition env task now item attempt attemptAction result) :
    result.item.row.caseId = item.row.caseId := by
  cases transition with
  | claim row phase claims =>
      rcases claimRunItem_some claims with ⟨-, rfl⟩
      rfl
  | commit inputs output results completedAt integrityError committed phase success =>
      exact (commitSuccess_some success).2.caseId
  | _ => rfl

theorem itemStep_caseId {task : CaseTask} {current after : ItemSystem} {itemAction : ItemAction}
    (stepped : itemStep env task current itemAction = some after) :
    after.item.row.caseId = current.item.row.caseId := by
  cases itemStep_transition stepped with
  | attempt index attemptAction attempt result delivered transition => exact transition.caseId
  | _ => rfl

theorem RunTransition.caseIds (transition : RunTransition env system action next) :
    next.rows.map (·.caseId) = system.rows.map (·.caseId) := by
  rw [RunSystem.rows, RunSystem.rows, List.map_map, List.map_map]
  cases transition with
  | publish index slot held => exact map_set_slot held rfl
  | item index itemAction slot after held stepped =>
      rw [afterItem_slots]
      exact map_set_slot held (itemStep_caseId stepped)
  | submissionFails completedAt =>
      rw [RunSystem.failSubmission, List.map_map]
      rfl
  | _ => rfl

theorem rows_created (inputs : DispatchInputs) (plan : RunPlan) (runId : String) (start : Nat)
    (cases : List EvalCase) :
    (createSlots inputs plan runId start cases).map (fun slot => slot.system.item.row.caseId) =
      cases.map (·.id) := by
  induction cases generalizing start with
  | nil => rfl
  | cons case cases induction => exact congrArg (case.id :: ·) (induction (start + 1))

theorem caseIds_reached {inputs : DispatchInputs} {plan : RunPlan} {organizationId : String}
    {actions : List RunAction}
    (reached : run (runStep env) (plan.dispatch inputs organizationId) actions = some system) :
    system.rows.map (·.caseId) = plan.cases.map (·.id) := by
  refine run_invariant (fun system => system.rows.map (·.caseId) = plan.cases.map (·.id))
    (fun _ _ _ kept stepped => (runStep_transition stepped).caseIds.trans kept) reached ?_
  rw [RunSystem.rows, List.map_map]
  exact rows_created inputs plan _ 0 plan.cases

end

/-! ## Reading a dispatched run -/

structure Dispatched.ReadBack (db : Database) (dispatched : Dispatched) : Prop where
  run : ∀ principal : Principal,
    principal.organizationId = dispatched.current.run.organizationId →
    getRun db principal dispatched.current.run.id =
      .ok ({ toEvalRun := dispatched.current.run
             createdAt := dispatched.createdAt } : EvalRunRow).read
  traces : ∀ principal : Principal,
    principal.organizationId = dispatched.current.run.organizationId →
    ∀ slot ∈ dispatched.current.slots, ∀ trace, slot.system.item.traces = [trace] →
    (getTrace db principal dispatched.current.run.id slot.system.item.row.caseId).map
      (·.payload) = .ok trace.payload
  samples : collectRunMetricSamples (db.itemRecords dispatched.current.run.id) =
    collectRunMetricSamples (dispatched.current.slots.map (·.system.item))

/-- The stored run agrees with its stored items: there is one for each case of the plan,
and a completed one has a trace and a result of every evaluator. -/
structure Dispatched.Finished (env : Environment) (db : Database) (plan : RunPlan)
    (dispatched : Dispatched) : Prop where
  finalised : RunFinalised dispatched.current.run (db.itemsOf dispatched.current.run.id)
  cases : (db.itemsOf dispatched.current.run.id).map (·.caseId) = plan.cases.map (·.id)
  terminal : ∀ row ∈ db.itemsOf dispatched.current.run.id, row.status.terminal = true
  evidenced : ∀ row ∈ db.itemsOf dispatched.current.run.id, row.status = .completed →
    (db.traces.filter (·.runItemId == row.id)).length = 1 ∧
      ∃ specs, (plan.evaluatorConfig.config.get "evaluators" (.list [])).iterate = .ok specs ∧
        (db.resultsOf row.id).map (·.evaluatorName) = specs.map env.resultName
  unevidenced : ∀ row ∈ db.itemsOf dispatched.current.run.id, row.status ≠ .completed →
    db.traces.filter (·.runItemId == row.id) = [] ∧ db.resultsOf row.id = []

section

variable {env : Environment} {db : Database} {dispatched : Dispatched} {plan : RunPlan}

theorem Dispatched.Sound.readBack (sound : dispatched.Sound env db) (consistent : db.Consistent) :
    dispatched.ReadBack db := by
  have found := tenantRun_of_run? consistent sound.stored.run
  constructor
  · intro principal own
    rw [getRun, tenantRunOr404, own, found]
    rfl
  · intro principal own slot member trace traced
    rw [← own] at found
    exact @getTrace_of_storedItems db principal consistent
      { toEvalRun := dispatched.current.run, createdAt := dispatched.createdAt } found
      (dispatched.current.slots.map fun slot => slot.system.item) sound.stored.storedItems
      slot.system.item (List.mem_map_of_mem member) trace traced
  · rw [Database.itemRecords_of_storedItems sound.stored.storedItems,
      collectRunMetricSamples_stored]

theorem Database.HoldsItem.traces_length {item : ItemRecord} (held : db.HoldsItem item) :
    (db.traces.filter (·.runItemId == item.row.id)).length = item.traces.length := by
  have traces := congrArg (fun record => record.traces.length) held.columns
  simpa [Database.storedItem, ItemRecord.columns] using traces

theorem CaseTask.evaluatorConfig_of_loaded {task : CaseTask} {inputs : CaseInputs}
    (loaded : task.loadEntities = .ok inputs) :
    task.evaluatorConfig = some inputs.evaluatorConfig := by
  unfold CaseTask.loadEntities at loaded
  split at loaded
  · cases loaded
  · cases loaded
  · cases loaded
  · next configured =>
    cases loaded
    exact configured

theorem Dispatched.Sound.finished (sound : dispatched.Sound env db)
    {inputs : DispatchInputs} {organizationId : String}
    (planned : dispatched.initial = plan.dispatch inputs organizationId)
    (nonempty : plan.cases ≠ [])
    (chained : Along (runStep env) (fun current action _ => current.chained action = true)
      dispatched.initial dispatched.actions)
    (returned : dispatched.current.dispatch = .returned)
    (quiet : dispatched.current.quiet = true) : dispatched.Finished env db plan := by
  have reached := sound.reached
  rw [planned] at chained reached
  rcases runFinalised_of_quiet nonempty (run_eq_some_iff.mp reached) chained returned quiet with
    ⟨invariant, allReturned, finalised⟩
  have rows := sound.stored.rows
  -- Every stored row is that of an item whose chain has ended.
  have slotOf : ∀ row ∈ db.itemsOf dispatched.current.run.id,
      ∃ slot ∈ dispatched.current.slots, slot.system.item.row = row := by
    intro row member
    rw [rows] at member
    exact List.mem_map.mp member
  have evidence : ∀ slot ∈ dispatched.current.slots,
      FullyEvidenced env slot.task slot.system.item :=
    fun slot member => (invariant.chains slot member).evidence.evidence.fullyEvidenced
  refine ⟨rows ▸ finalised, ?_, ?_, ?_, ?_⟩
  · rw [rows]
    exact caseIds_reached reached
  · rw [rows]
    exact invariant.terminal allReturned
  · intro row member completed
    rcases slotOf row member with ⟨slot, slotMember, rfl⟩
    have held := sound.stored.holds slotMember
    rcases (evidence slot slotMember).completed completed with
      ⟨delivery, config, specs, configured, iterated, traces, names, -⟩
    have task : slot.task ∈ (plan.dispatch inputs organizationId).slots.map Slot.task := by
      rw [← runStep_tasks (run_eq_some_iff.mp reached)]
      exact List.mem_map_of_mem slotMember
    rcases mem_createSlots_loads task with ⟨case, -, loaded⟩
    cases configured.symm.trans (CaseTask.evaluatorConfig_of_loaded loaded)
    constructor
    · rw [held.traces_length]
      simpa using congrArg List.length traces
    · exact ⟨specs, iterated, held.names.trans names⟩
  · intro row member incomplete
    rcases slotOf row member with ⟨slot, slotMember, rfl⟩
    have held := sound.stored.holds slotMember
    rcases (evidence slot slotMember).other incomplete with ⟨traces, results⟩
    constructor
    · rw [← List.length_eq_zero_iff, held.traces_length, traces]
      rfl
    · have names := held.names
      rw [results] at names
      exact List.map_eq_nil_iff.mp names

end

/-! ## Every order of requests and steps -/

/-- Whatever requests are served and however the steps of the workers fall between
them, the database is reachable, and every dispatched run is stored and read as its
workers have left it. -/
theorem dispatched_runs_stored (env : Environment) (createdAt : Nat)
    (events : List ClusterEvent) (final : Cluster)
    (ran : run (clusterStep env) { db := .migrated createdAt } events = some final)
    (fresh : Along (clusterStep env) IssuesNewIds { db := .migrated createdAt } events) :
    final.db.Reachable ∧ ∀ dispatched ∈ final.runs,
      dispatched.Sound env final.db ∧ dispatched.ReadBack final.db := by
  have sound := cluster_sound createdAt ran fresh
  refine ⟨sound.reachable, fun dispatched member => ?_⟩
  have own := sound.runs dispatched member
  exact ⟨own, own.readBack sound.reachable.consistent⟩

/-! ## A chord of one case

Its steps fall around a run that the server executes itself. -/

namespace Scenario

def celeryDeployment : Deployment :=
  { devDeployment with
    settings := { bootstrapToken := some "bootstrap", runMode := "celery", accepted := rfl } }

def chordCall : Call :=
  { namedCall "chord" {} (.tenant devRun) with deployment := celeryDeployment }

def unaryEvidence (mark : Char) : EvidenceReadings where
  newUuid := unaryId mark
  createdAt index := index

def chordWork (mark : Char) (actions : List RunAction) : List ClusterEvent :=
  actions.map (.work 0 (unaryEvidence mark))

def clusterEvents : List ClusterEvent :=
  (devRequests.take 5).map (fun (name, request) => .call (namedCall name {} (.tenant request))) ++
    [.call chordCall] ++
    chordWork 'x' ([.publish 0, .submitted] ++ (executed.take 6).map (.item 0)) ++
    [.call (namedCall "baseline" {} (.tenant devRun))] ++
    chordWork 'y' [.item 0 (.attempt 0 .refreshProgress), .countItems, .completeRun 5]

def clusterState : Option Cluster :=
  run (clusterStep environment) { db := .migrated 0 } clusterEvents

def marksClear (cluster : Cluster) : ClusterEvent → Bool
  | .work _ readings _ =>
      (cluster.db.traces.all fun stored =>
        stored.id.toList.head? != (readings.newUuid 0).toList.head?) &&
      cluster.db.evalResults.all fun stored =>
        stored.id.toList.head? != (readings.newUuid 0).toList.head?
  | _ => true

def Marked (_ : Cluster) (event : ClusterEvent) (_ : Cluster) : Prop :=
  match event with
  | .work _ readings _ => ∃ mark, readings = unaryEvidence mark
  | _ => True

theorem clusterEvents_marked :
    Along (clusterStep environment) Marked { db := .migrated 0 } clusterEvents := by
  refine Along.of_actions fun event member current next => ?_
  have marked (mark : Char) (actions : List RunAction)
      (member : event ∈ chordWork mark actions) : Marked current event next := by
    rcases List.mem_map.mp member with ⟨action, -, rfl⟩
    exact ⟨mark, rfl⟩
  simp only [clusterEvents, List.mem_append, List.mem_singleton] at member
  rcases member with (((created | rfl) | first) | rfl) | second
  · rcases List.mem_map.mp created with ⟨request, -, rfl⟩
    trivial
  · trivial
  · exact marked 'x' _ first
  · trivial
  · exact marked 'y' _ second

theorem clusterEvents_new :
    Along (clusterStep environment) IssuesNewIds { db := .migrated 0 } clusterEvents := by
  have clear : Along (clusterStep environment)
      (fun cluster event _ => marksClear cluster event = true) { db := .migrated 0 }
      clusterEvents := by
    decide +kernel
  refine Along.of_invariant (fun _ => True) ?_ trivial (clear.and clusterEvents_marked)
  intro cluster event next _ _ both
  refine ⟨trivial, ?_⟩
  cases event with
  | work index readings action =>
      rcases both with ⟨clear, mark, rfl⟩
      have head : ((unaryEvidence mark).newUuid 0).toList.head? = some mark := by
        change (unaryId mark 0).toList.head? = some mark
        rw [unaryId, String.toList_ofList, List.head?_cons]
      simp only [marksClear, head, Bool.and_eq_true, List.all_eq_true, bne_iff_ne] at clear
      exact ⟨unaryId_injective mark, fun stored member => ne_unaryId (clear.1 stored member) 0,
        fun stored member => ne_unaryId (clear.2 stored member)⟩
  | _ => trivial

end Scenario

theorem dispatched_runs_stored_scenario :
    ∃ final, Scenario.clusterState = some final ∧ final.runs.length = 1 ∧
      final.db.Reachable ∧ ∀ dispatched ∈ final.runs,
        dispatched.Sound Scenario.environment final.db ∧ dispatched.ReadBack final.db := by
  have shape : (Scenario.clusterState.map (·.runs.length)) = some 1 := by decide +kernel
  rcases Option.map_eq_some_iff.mp shape with ⟨final, ran, length⟩
  exact ⟨final, ran, length, dispatched_runs_stored Scenario.environment 0 Scenario.clusterEvents
    final ran Scenario.clusterEvents_new⟩

/-- A dispatched run with cases whose submission returned, whose deliveries followed each
other and that has nothing left to do agrees with its stored items, among any
requests and any other runs. -/
theorem finished_runs_stored (env : Environment) (createdAt : Nat)
    (events : List ClusterEvent) (final : Cluster)
    (ran : run (clusterStep env) { db := .migrated createdAt } events = some final)
    (fresh : Along (clusterStep env) IssuesNewIds { db := .migrated createdAt } events)
    (dispatched : Dispatched) (member : dispatched ∈ final.runs)
    (chained : Along (runStep env) (fun current action _ => current.chained action = true)
      dispatched.initial dispatched.actions)
    (items : dispatched.initial.slots ≠ []) (submitted : dispatched.current.dispatch = .returned)
    (quiet : dispatched.current.quiet = true) :
    ∃ (inputs : DispatchInputs) (request : RunRequest) (plan : RunPlan),
      request.check = .ok plan ∧
      dispatched.initial = plan.dispatch inputs request.organizationId ∧
      dispatched.Finished env final.db plan := by
  have sound := (cluster_sound createdAt ran fresh).runs dispatched member
  rcases sound.accepted with ⟨inputs, request, accepted⟩
  rcases dispatchRun_ok accepted with ⟨plan, checked, planned⟩
  refine ⟨inputs, request, plan, checked, planned, ?_⟩
  refine sound.finished planned ?_ chained submitted quiet
  intro empty
  rw [planned, RunPlan.dispatch, empty] at items
  exact items rfl

theorem finished_runs_stored_scenario :
    ∃ final dispatched, Scenario.clusterState = some final ∧ dispatched ∈ final.runs ∧
      ∃ (inputs : DispatchInputs) (request : RunRequest) (plan : RunPlan),
        request.check = .ok plan ∧
        dispatched.initial = plan.dispatch inputs request.organizationId ∧
        dispatched.Finished Scenario.environment final.db plan := by
  have there : ((Scenario.clusterState.bind fun final => final.runs[0]?).isSome) = true := by
    decide +kernel
  have settled : ((Scenario.clusterState.bind fun final => final.runs[0]?).all fun dispatched =>
      decide (Along (runStep Scenario.environment)
          (fun current action _ => current.chained action = true)
          dispatched.initial dispatched.actions) &&
        !dispatched.initial.slots.isEmpty &&
        decide (dispatched.current.dispatch = .returned) && dispatched.current.quiet) = true := by
    decide +kernel
  rcases Option.isSome_iff_exists.mp there with ⟨dispatched, found⟩
  rw [found] at settled
  rcases Option.bind_eq_some_iff.mp found with ⟨final, ran, held⟩
  simp only [Option.all_some, Bool.and_eq_true, decide_eq_true_eq, Bool.not_eq_true',
    List.isEmpty_eq_false_iff] at settled
  rcases settled with ⟨⟨⟨chained, items⟩, submitted⟩, quiet⟩
  have member := List.mem_of_getElem? held
  exact ⟨final, dispatched, ran, member,
    finished_runs_stored Scenario.environment 0 Scenario.clusterEvents final ran
      Scenario.clusterEvents_new dispatched member chained items submitted quiet⟩

end EvalForge
