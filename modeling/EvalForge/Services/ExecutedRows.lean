import EvalForge.Evaluators.Registry
import EvalForge.Services.CompareRuns
import EvalForge.Services.RunDispatcher
import EvalForge.Workers.Evidence
import EvalForge.Db.Consistency

/-! # Rows that the executors wrote

Whichever executor worked on an item, and however its deliveries crossed, the
evaluator results it holds are all those of one evaluation of its case.
-/

namespace EvalForge

open Foundation

/-- The results of an item are those of one evaluation, with their scores in six
digits, or there are none. -/
structure EvaluatedRows (env : Environment) (payload config : Json) (item : ItemRecord) :
    Prop where
  untraced : item.traces = [] → item.results = []
  evaluated : item.results = [] ∨ ∃ output results,
    env.evaluateCase payload output config = .ok results ∧
      item.results.map (·.toEvaluationResult) = results.map (·.rounded)

inductive ExecutorItem (env : Environment) (plan : RunPlan) (case : EvalCase) : ItemRecord → Prop
  | synchronous (inputs : ExecutionInputs) (adapter : Adapter) (runId : String) (index : Nat)
      (item : ItemRecord)
      (flushed : (executeCase env inputs plan adapter runId index case).item.flush env.storesJson =
        some item) : ExecutorItem env plan case item
  | dispatched (inputs : DispatchInputs) (organizationId : String) (actions : List RunAction)
      (system : RunSystem) (slot : Slot)
      (reached : Transitions (runStep env) (plan.dispatch inputs organizationId) actions system)
      (member : slot ∈ system.slots) (executes : slot.task.case = some case) :
      ExecutorItem env plan case slot.system.item

/-! ## The synchronous executor -/

section Synchronous

variable {env : Environment} {plan : RunPlan} {case : EvalCase}

theorem EvaluatedRows.of_empty {payload config : Json} {item : ItemRecord}
    (empty : item.results = []) : EvaluatedRows env payload config item where
  untraced _ := empty
  evaluated := .inl empty

theorem executeCase_evaluatedRows {inputs : ExecutionInputs} {adapter : Adapter}
    {runId : String} {index : Nat} {item : ItemRecord}
    (executed : (executeCase env inputs plan adapter runId index case).item.flush env.storesJson =
      some item) :
    EvaluatedRows env case.payload plan.evaluatorConfig.config item := by
  have flushed := (SessionItem.flush_some executed).2
  unfold executeCase at flushed
  dsimp only at flushed
  split at flushed
  · exact .of_empty (List.map_eq_nil_iff.mp flushed.results)
  · next output called =>
    split at flushed
    · exact .of_empty (List.map_eq_nil_iff.mp flushed.results)
    · next results evaluated =>
      constructor
      · intro untraced
        cases untraced.symm.trans flushed.traces
      · exact .inr ⟨output, results, evaluated, flushed.results⟩

end Synchronous

/-! ## The dispatched executor -/

structure DeliveredRows (env : Environment) (task : CaseTask) (system : ItemSystem) : Prop where
  rows : ∀ inputs, task.loadEntities = .ok inputs →
    EvaluatedRows env inputs.case.payload inputs.evaluatorConfig.config system.item
  sound : ∀ attempt ∈ system.deliveries, PhaseSound env task attempt.phase

section Dispatched

variable {env : Environment} {task : CaseTask} {current next : ItemSystem} {action : ItemAction}

theorem AttemptTransition.evaluatedRows {now : Nat} {item : ItemRecord} {attempt : Attempt}
    {attemptAction : AttemptAction} {result : AttemptResult} {inputs : CaseInputs}
    (transition : AttemptTransition env task now item attempt attemptAction result)
    (sound : PhaseSound env task attempt.phase) (loaded : task.loadEntities = .ok inputs)
    (rows : EvaluatedRows env inputs.case.payload inputs.evaluatorConfig.config item) :
    EvaluatedRows env inputs.case.payload inputs.evaluatorConfig.config result.item := by
  cases transition with
  | claim row phase claimed => exact ⟨rows.untraced, rows.evaluated⟩
  | clear _ _ => exact .of_empty rfl
  | commit loadedInputs output results completedAt integrityError committed phase stored =>
      rw [phase] at sound
      rcases sound with ⟨again, evaluated⟩
      cases loaded.symm.trans again
      rcases commitSuccess_some stored with ⟨held, success⟩
      have untraced : item.traces = [] := by
        by_contra traced
        have free := held.free
        rw [ItemRecord.conflicts_of_traces_ne_nil traced] at free
        cases free
      have empty := rows.untraced untraced
      constructor
      · intro noTraces
        rw [Attempt.enter, success.traces] at noTraces
        exact absurd noTraces (List.append_ne_nil_of_right_ne_nil _ (List.cons_ne_nil _ _))
      · exact .inr ⟨output, results, evaluated, (success.results_of_empty empty).1⟩
  | record exc loaded completedAt phase => exact ⟨rows.untraced, rows.evaluated⟩
  | _ => exact rows

theorem DeliveredRows.step (delivered : DeliveredRows env task current)
    (stepped : itemStep env task current action = some next) : DeliveredRows env task next := by
  cases itemStep_transition stepped with
  | tick => exact ⟨delivered.rows, delivered.sound⟩
  | deliver index message _ =>
      refine ⟨delivered.rows, ?_⟩
      intro attempt member
      rcases List.mem_append.mp member with member | member
      · exact delivered.sound attempt member
      · cases List.mem_singleton.mp member
        trivial
  | attempt index action attempt result held transition =>
      have sound := delivered.sound attempt (List.mem_of_getElem? held)
      constructor
      · intro inputs loaded
        exact transition.evaluatedRows sound loaded (delivered.rows inputs loaded)
      · intro other member
        rcases mem_afterAttempt member with member | rfl
        · exact delivered.sound other member
        · exact transition.phaseSound sound

theorem DeliveredRows.created (env : Environment) (task : CaseTask) (runId : String) (now : Nat) :
    DeliveredRows env task (.created task runId now) where
  rows _ _ := .of_empty rfl
  sound := by simp [ItemSystem.created]

theorem DeliveredRows.runStep {system nextSystem : RunSystem} {runAction : RunAction}
    (delivered : ∀ slot ∈ system.slots, DeliveredRows env slot.task slot.system)
    (stepped : EvalForge.runStep env system runAction = some nextSystem) :
    ∀ slot ∈ nextSystem.slots, DeliveredRows env slot.task slot.system := by
  cases runStep_transition stepped with
  | publish index slot held =>
      intro other member
      rcases List.mem_or_eq_of_mem_set member with member | rfl
      · exact delivered other member
      · have before := delivered slot (List.mem_of_getElem? held)
        exact ⟨before.rows, before.sound⟩
  | submissionFails completedAt =>
      intro other member
      rcases List.mem_map.mp member with ⟨slot, slotMember, rfl⟩
      have before := delivered slot slotMember
      refine ⟨?_, before.sound⟩
      intro inputs loaded
      have rows := before.rows inputs loaded
      exact ⟨rows.untraced, rows.evaluated⟩
  | item index itemAction slot after held itemStepped =>
      intro other member
      rw [afterItem_slots] at member
      rcases List.mem_or_eq_of_mem_set member with member | rfl
      · exact delivered other member
      · exact (delivered slot (List.mem_of_getElem? held)).step itemStepped
  | submitted => exact delivered
  | countItems => exact delivered
  | completeRun => exact delivered

end Dispatched

theorem mem_createSlots_loads {inputs : DispatchInputs} {plan : RunPlan} {runId : String}
    {start : Nat} {cases : List EvalCase} {task : CaseTask}
    (member : task ∈ (createSlots inputs plan runId start cases).map Slot.task) :
    ∃ case, task.case = some case ∧ task.loadEntities =
      .ok { case, version := plan.version, evaluatorConfig := plan.evaluatorConfig } := by
  induction cases generalizing start with
  | nil => cases member
  | cons case cases induction =>
      rcases List.mem_cons.mp member with rfl | member
      · exact ⟨case, rfl, rfl⟩
      · exact induction member

theorem runStep_tasks {env : Environment} {initial system : RunSystem}
    {actions : List RunAction} (reached : Transitions (runStep env) initial actions system) :
    system.slots.map Slot.task = initial.slots.map Slot.task := by
  induction reached with
  | nil => rfl
  | cons stepped _ induction => exact induction.trans (runStep_transition stepped).tasks

/-- An item of either executor holds the results of one evaluation of its case. -/
theorem ExecutorItem.evaluatedRows {env : Environment} {plan : RunPlan} {case : EvalCase}
    {item : ItemRecord} (executed : ExecutorItem env plan case item) :
    EvaluatedRows env case.payload plan.evaluatorConfig.config item := by
  cases executed with
  | synchronous inputs adapter runId index item flushed =>
      exact executeCase_evaluatedRows flushed
  | dispatched inputs organizationId actions system slot reached member executes =>
      have delivered : ∀ slot ∈ system.slots, DeliveredRows env slot.task slot.system := by
        refine run_invariant
          (fun system => ∀ slot ∈ system.slots, DeliveredRows env slot.task slot.system) ?_
          (run_eq_some_iff.mpr reached) ?_
        · exact fun _ _ _ delivered stepped => DeliveredRows.runStep delivered stepped
        · intro slot member
          rw [mem_createSlots member]
          exact .created env slot.task _ _
      have task : slot.task ∈ (plan.dispatch inputs organizationId).slots.map Slot.task := by
        rw [← runStep_tasks reached]
        exact List.mem_map_of_mem member
      rcases mem_createSlots_loads task with ⟨other, named, loaded⟩
      cases executes.symm.trans named
      exact (delivered slot member).rows _ loaded

/-! ## Stored runs -/

namespace Database

variable (db : Database)

def Stores (item : EvalRunItem) (record : ItemRecord) : Prop :=
  record.row = item ∧
    (db.resultsOf item.id).map (·.toEvaluationResult) =
      record.results.map (·.toEvaluationResult)

/-- A finalised run that the executors have written under an evaluator
configuration which validation accepted. -/
structure ExecutedRun (env : Environment) (run : EvalRunRow) (plan : RunPlan) : Prop where
  finalised : run.status.comparable = true
  configured : (db.evaluatorConfig? run.evaluatorConfigId).map (·.toEvaluatorConfig) =
    some plan.evaluatorConfig
  accepted : ∃ config, env.validateEvaluatorConfig plan.evaluatorConfig.config = .ok config
  items : ∀ item ∈ db.itemsOf run.id, ∃ case record,
    db.case? item.caseId = some case ∧ ExecutorItem env plan case.toEvalCase record ∧
      db.Stores item record

variable {db} {env : Environment} {run : EvalRunRow} {plan : RunPlan}

theorem ExecutedRun.case (executed : db.ExecutedRun env run plan) :
    ∀ item ∈ db.itemsOf run.id, ∃ case, db.case? item.caseId = some case := by
  intro item member
  rcases executed.items item member with ⟨case, _, found, _⟩
  exact ⟨case, found⟩

theorem ExecutedRun.evaluated (executed : db.ExecutedRun env run plan) {item : EvalRunItem}
    (member : item ∈ db.itemsOf run.id) :
    db.resultsOf item.id = [] ∨ ∃ case output results, db.case? item.caseId = some case ∧
      env.evaluateCase case.payload output plan.evaluatorConfig.config = .ok results ∧
      (db.resultsOf item.id).map (·.toEvaluationResult) = results.map (·.rounded) := by
  rcases executed.items item member with ⟨case, record, found, item, rfl, stored⟩
  rcases item.evaluatedRows.evaluated with empty | ⟨output, results, evaluated, rows⟩
  · left
    rw [empty] at stored
    simpa using stored
  · right
    exact ⟨case, output, results, found, evaluated, stored.trans rows⟩

end Database

theorem Database.ExecutedRun.shaped {db : Database} {context : EvaluatorContext}
    {loadAdapter : String → Except PythonException Adapter} {installed : String → Bool}
    {run : EvalRunRow} {plan : RunPlan}
    (executed : db.ExecutedRun (context.environment loadAdapter installed) run plan)
    {item : EvalRunItem} (member : item ∈ db.itemsOf run.id) :
    ∀ result ∈ db.resultsOf item.id,
      result.toEvaluationResult.Shaped result.evaluatorName := by
  intro result resultMember
  rcases executed.evaluated member with empty | ⟨case, output, results, _, evaluated, rows⟩
  · rw [empty] at resultMember
    cases resultMember
  · have rounded : result.toEvaluationResult ∈ results.map (·.rounded) :=
      rows ▸ List.mem_map_of_mem resultMember
    rcases List.mem_map.mp rounded with ⟨original, originalMember, same⟩
    have shaped := (EvaluatorContext.evaluateCase_shaped evaluated original originalMember).rounded
    rw [← same]
    exact shaped

end EvalForge
