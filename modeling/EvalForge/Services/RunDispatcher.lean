import EvalForge.Workers.Deliveries
import EvalForge.Workers.Progress

/-! # The run dispatcher

`dispatch_run` commits a run with its queued items and then submits a chord:
one header task for each item and `check_run_completion` as the callback. One
step of the system publishes a header task, ends the submission, lets a worker
or the broker take a step on one item, or executes one statement of the
callback.
-/

namespace EvalForge

open Foundation

/-- A header task of the chord, with the item it works on and its deliveries. -/
structure Slot where
  task : CaseTask
  taskId : String
  system : ItemSystem

inductive Dispatch
  | submitting
  | returned
  | failed
  deriving DecidableEq, Repr

inductive Callback
  | absent
  | waiting
  | counted (counts : ItemCounts)
  | done

structure RunSystem where
  run : EvalRun
  slots : List Slot
  dispatch : Dispatch
  callback : Callback

structure DispatchInputs where
  newUuid : Nat → String
  taskId : Nat → String
  utcNow : Nat

/-! ## Creation -/

/-- The signature of `run_eval_case` for an item, with the rows its ids name. -/
def RunPlan.caseTask (plan : RunPlan) (runItemId : String) (case : EvalCase) : CaseTask where
  runItemId := runItemId
  caseId := case.id
  versionId := plan.version.id
  evaluatorConfigId := plan.evaluatorConfig.id
  case := some case
  version := some plan.version
  evaluatorConfig := some plan.evaluatorConfig

def createSlot (inputs : DispatchInputs) (plan : RunPlan) (runId : String) (index : Nat)
    (case : EvalCase) : Slot :=
  let task := plan.caseTask (inputs.newUuid (index + 1)) case
  { task, taskId := inputs.taskId index, system := .created task runId inputs.utcNow }

def createSlots (inputs : DispatchInputs) (plan : RunPlan) (runId : String) :
    Nat → List EvalCase → List Slot
  | _, [] => []
  | index, case :: cases =>
      createSlot inputs plan runId index case :: createSlots inputs plan runId (index + 1) cases

/-- `dispatch_run` up to the submission. Without signatures there is nothing
to submit, and the run is returned as it is. -/
def RunPlan.dispatch (plan : RunPlan) (inputs : DispatchInputs) (organizationId : String) :
    RunSystem :=
  let run := plan.newRun organizationId (inputs.newUuid 0) inputs.utcNow
  { run
    slots := createSlots inputs plan run.id 0 plan.cases
    dispatch := if plan.cases.isEmpty then .returned else .submitting
    callback := if plan.cases.isEmpty then .absent else .waiting }

def dispatchRun (inputs : DispatchInputs) (request : RunRequest) : Except RunError RunSystem := do
  let plan ← request.check
  return plan.dispatch inputs request.organizationId

theorem dispatchRun_ok {inputs : DispatchInputs} {request : RunRequest} {initial : RunSystem}
    (dispatched : dispatchRun inputs request = .ok initial) :
    ∃ plan, request.check = .ok plan ∧
      initial = plan.dispatch inputs request.organizationId := by
  unfold dispatchRun at dispatched
  cases checked : request.check with
  | error refused => simp [checked, bind, Except.bind] at dispatched
  | ok plan =>
      simp only [checked, bind, Except.bind, pure, Except.pure] at dispatched
      cases dispatched
      exact ⟨plan, rfl, rfl⟩

/-! ## Steps -/

inductive RunAction
  | publish (index : Nat)
  | submitted
  | submissionFails (completedAt : Nat)
  | item (index : Nat) (action : ItemAction)
  | countItems
  | completeRun (completedAt : Nat)

/-- A delivery of the task has returned, which Celery counts for the chord. -/
def ItemSystem.returned (system : ItemSystem) : Bool :=
  system.deliveries.any fun attempt =>
    match attempt.phase with
    | .returned _ => true
    | _ => false

theorem ItemSystem.returned_iff {system : ItemSystem} :
    system.returned = true ↔
      ∃ attempt ∈ system.deliveries, ∃ result, attempt.phase = .returned result := by
  simp only [ItemSystem.returned, List.any_eq_true]
  constructor
  · rintro ⟨attempt, member, returned⟩
    cases phase : attempt.phase with
    | returned result => exact ⟨attempt, member, result, phase⟩
    | _ => simp [phase] at returned
  · rintro ⟨attempt, member, result, phase⟩
    exact ⟨attempt, member, by simp [phase]⟩

def ItemAction.refreshes : ItemAction → Bool
  | .attempt _ .refreshProgress => true
  | _ => false

namespace RunSystem

def rows (system : RunSystem) : List EvalRunItem :=
  system.slots.map fun slot => slot.system.item.row

def allReturned (system : RunSystem) : Bool :=
  system.slots.all fun slot => slot.system.returned

def updateSlot (system : RunSystem) (index : Nat) (slot : Slot) : RunSystem :=
  { system with slots := system.slots.set index slot }

def publish (system : RunSystem) (index : Nat) (slot : Slot) : RunSystem :=
  system.updateSlot index { slot with system := slot.system.publish slot.taskId }

def afterItem (system : RunSystem) (index : Nat) (slot : Slot) (next : ItemSystem)
    (action : ItemAction) : RunSystem :=
  let updated := system.updateSlot index { slot with system := next }
  if action.refreshes then
    { updated with run := refreshRunProgress updated.rows updated.run }
  else
    updated

end RunSystem

def ItemSystem.failSubmission (system : ItemSystem) (completedAt : Nat) : ItemSystem :=
  { system with
    item := { system.item with
      row := { system.item.row with
        status := .errored
        errorMessage := some "Failed to submit task to worker queue"
        completedAt := some completedAt } } }

/-- The handler of an exception of `apply_async`: it overwrites the run and
every item, whatever the workers have committed meanwhile. -/
def RunSystem.failSubmission (system : RunSystem) (completedAt : Nat) : RunSystem :=
  { system with
    run := { system.run with
      status := .failed
      caseErrored := system.slots.length
      completedAt := some completedAt }
    slots := system.slots.map fun slot =>
      { slot with system := slot.system.failSubmission completedAt }
    dispatch := .failed }

def runStep (env : Environment) (system : RunSystem) : RunAction → Option RunSystem
  | .publish index => do
      let slot ← system.slots[index]?
      if system.dispatch = .submitting ∧ slot.system.messages.isEmpty then
        return system.publish index slot
      else
        none
  | .submitted =>
      if system.dispatch = .submitting ∧
          system.slots.all fun slot => !slot.system.messages.isEmpty then
        some { system with dispatch := .returned }
      else
        none
  | .submissionFails completedAt =>
      if system.dispatch = .submitting then some (system.failSubmission completedAt) else none
  | .item index action => do
      let slot ← system.slots[index]?
      let next ← itemStep env slot.task slot.system action
      return system.afterItem index slot next action
  | .countItems =>
      match system.callback with
      | .waiting =>
          if system.allReturned then
            some { system with callback := .counted (EvalForge.countItems system.rows) }
          else
            none
      | _ => none
  | .completeRun completedAt =>
      match system.callback with
      | .counted counts =>
          some { system with
            run := EvalForge.completeRun counts completedAt system.run
            callback := .done }
      | _ => none

inductive RunTransition (env : Environment) (system : RunSystem) : RunAction → RunSystem → Prop
  | publish (index : Nat) (slot : Slot) (held : system.slots[index]? = some slot)
      (submitting : system.dispatch = .submitting) (fresh : slot.system.messages = []) :
      RunTransition env system (.publish index) (system.publish index slot)
  | submitted (submitting : system.dispatch = .submitting)
      (published : ∀ slot ∈ system.slots, slot.system.messages ≠ []) :
      RunTransition env system .submitted { system with dispatch := .returned }
  | submissionFails (completedAt : Nat) (submitting : system.dispatch = .submitting) :
      RunTransition env system (.submissionFails completedAt) (system.failSubmission completedAt)
  | item (index : Nat) (action : ItemAction) (slot : Slot) (next : ItemSystem)
      (held : system.slots[index]? = some slot)
      (stepped : itemStep env slot.task slot.system action = some next) :
      RunTransition env system (.item index action) (system.afterItem index slot next action)
  | countItems (waiting : system.callback = .waiting) (returned : system.allReturned = true) :
      RunTransition env system .countItems
        { system with callback := .counted (countItems system.rows) }
  | completeRun (completedAt : Nat) (counts : ItemCounts)
      (counted : system.callback = .counted counts) :
      RunTransition env system (.completeRun completedAt)
        { system with run := completeRun counts completedAt system.run, callback := .done }

theorem runStep_transition {env : Environment} {system next : RunSystem} {action : RunAction}
    (stepped : runStep env system action = some next) : RunTransition env system action next := by
  cases action with
  | publish index =>
      rcases Option.bind_eq_some_iff.mp stepped with ⟨slot, held, published⟩
      split at published
      · next guard =>
        cases published
        exact .publish index slot held guard.1 (List.isEmpty_iff.mp guard.2)
      · cases published
  | submitted =>
      simp only [runStep] at stepped
      split at stepped
      · next guard =>
        cases stepped
        refine .submitted guard.1 ?_
        intro slot member
        simpa using List.all_eq_true.mp guard.2 slot member
      · cases stepped
  | submissionFails completedAt =>
      simp only [runStep] at stepped
      split at stepped
      · next submitting =>
        cases stepped
        exact .submissionFails completedAt submitting
      · cases stepped
  | item index action =>
      rcases Option.bind_eq_some_iff.mp stepped with ⟨slot, held, rest⟩
      rcases Option.bind_eq_some_iff.mp rest with ⟨next, itemStepped, updated⟩
      cases updated
      exact .item index action slot next held itemStepped
  | countItems =>
      simp only [runStep] at stepped
      split at stepped
      · next waiting =>
        split at stepped
        · next returned =>
          cases stepped
          exact .countItems waiting returned
        · cases stepped
      · cases stepped
  | completeRun completedAt =>
      simp only [runStep] at stepped
      split at stepped
      · next counts counted =>
        cases stepped
        exact .completeRun completedAt counts counted
      · cases stepped

/-! ## What the steps leave alone -/

section Frame

variable {env : Environment} {system : RunSystem} {index : Nat} {slot : Slot}
variable {Feature : Type u}

@[simp] theorem afterItem_slots (next : ItemSystem) (action : ItemAction) :
    (system.afterItem index slot next action).slots =
      system.slots.set index { slot with system := next } := by
  unfold RunSystem.afterItem
  split <;> rfl

@[simp] theorem afterItem_dispatch (next : ItemSystem) (action : ItemAction) :
    (system.afterItem index slot next action).dispatch = system.dispatch := by
  unfold RunSystem.afterItem
  split <;> rfl

@[simp] theorem afterItem_callback (next : ItemSystem) (action : ItemAction) :
    (system.afterItem index slot next action).callback = system.callback := by
  unfold RunSystem.afterItem
  split <;> rfl

theorem afterItem_run_of_not_refreshes (next : ItemSystem) {action : ItemAction}
    (quiet : action.refreshes = false) :
    (system.afterItem index slot next action).run = system.run := by
  simp [RunSystem.afterItem, quiet, RunSystem.updateSlot]

theorem afterItem_run_of_refreshes (next : ItemSystem) {action : ItemAction}
    (refreshes : action.refreshes = true) :
    (system.afterItem index slot next action).run =
      refreshRunProgress (system.afterItem index slot next action).rows system.run := by
  simp [RunSystem.afterItem, refreshes, RunSystem.updateSlot, RunSystem.rows]

theorem map_set_slot (held : system.slots[index]? = some slot) {feature : Slot → Feature}
    {replacement : Slot} (same : feature replacement = feature slot) :
    (system.slots.set index replacement).map feature = system.slots.map feature := by
  rcases List.getElem?_eq_some_iff.mp held with ⟨bound, equal⟩
  have bounded : index < (system.slots.map feature).length := by simpa using bound
  have mapped : (system.slots.map feature)[index] = feature slot := by simp [equal]
  rw [List.map_set, same, ← mapped]
  exact List.set_getElem_self bounded

theorem RunTransition.tasks {action : RunAction} {next : RunSystem}
    (transition : RunTransition env system action next) :
    next.slots.map Slot.task = system.slots.map Slot.task := by
  cases transition with
  | publish index slot held => exact map_set_slot held rfl
  | item index action slot next held =>
      rw [afterItem_slots]
      exact map_set_slot held rfl
  | submissionFails completedAt =>
      simp [RunSystem.failSubmission, Function.comp_def]
  | _ => rfl

theorem RunTransition.length {action : RunAction} {next : RunSystem}
    (transition : RunTransition env system action next) :
    next.slots.length = system.slots.length := by
  have mapped := congrArg List.length transition.tasks
  simpa using mapped

theorem completeRun_caseCount (counts : ItemCounts) (completedAt : Nat) (run : EvalRun) :
    (completeRun counts completedAt run).caseCount = run.caseCount := by
  unfold completeRun
  split <;> rfl

theorem RunTransition.caseCount {action : RunAction} {next : RunSystem}
    (transition : RunTransition env system action next) :
    next.run.caseCount = system.run.caseCount := by
  cases transition with
  | item index action slot next held =>
      cases refreshes : action.refreshes with
      | false => rw [afterItem_run_of_not_refreshes next refreshes]
      | true => rw [afterItem_run_of_refreshes next refreshes]; rfl
  | completeRun completedAt counts => exact completeRun_caseCount counts completedAt system.run
  | _ => rfl

theorem createSlots_length (inputs : DispatchInputs) (plan : RunPlan) (runId : String)
    (start : Nat) (cases : List EvalCase) :
    (createSlots inputs plan runId start cases).length = cases.length := by
  induction cases generalizing start with
  | nil => rfl
  | cons case cases induction => simp [createSlots, induction]

theorem mem_createSlots {inputs : DispatchInputs} {plan : RunPlan} {runId : String}
    {start : Nat} {cases : List EvalCase}
    (member : slot ∈ createSlots inputs plan runId start cases) :
    slot.system = .created slot.task runId inputs.utcNow := by
  induction cases generalizing start with
  | nil => cases member
  | cons case cases induction =>
      rcases List.mem_cons.mp member with rfl | member
      · rfl
      · exact induction member

end Frame

/-! ## A run of two cases -/

namespace Scenario

def suite : EvalSuite where
  id := "suite-1"
  appId := "app-1"

def secondCase : EvalCase where
  id := "case-2"
  payload := .dict [("input", .str "Which module runs unit tests?")]

def request : RunRequest where
  organizationId := "org-1"
  version := some version
  suite := some suite
  evaluatorConfig := some evaluatorConfig
  suiteCases := [case, secondCase]
  caseIds := none

def dispatchInputs : DispatchInputs where
  newUuid
    | 0 => "run-1"
    | 1 => "item-1"
    | _ => "item-2"
  taskId
    | 0 => "task-1"
    | _ => "task-2"
  utcNow := 0

def plan : RunPlan where
  version := version
  suite := suite
  evaluatorConfig := evaluatorConfig
  cases := [case, secondCase]

def executed : List ItemAction :=
  untilReady 0 0 ++ [.attempt 0 (.callAdapter (.ok output)), .attempt 0 (.commitSuccess ⟨""⟩),
    .attempt 0 .refreshProgress]

def executeItem (index : Nat) : List RunAction :=
  executed.map (.item index)

end Scenario

end EvalForge
