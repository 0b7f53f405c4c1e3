import EvalForge.Foundation.Transitions
import EvalForge.Workers.Tasks

/-! # Deliveries of one item's messages

One run item under at-least-once delivery: the broker may hand out every
published message any number of times, and all the attempts this starts run
interleaved, one step at a time, against the committed item.
-/

namespace EvalForge

open Foundation

/-- An `evalforge.eval_case` message. A retry publishes one under the same
task id. -/
structure Message where
  taskId : String
  retries : Nat

structure ItemSystem where
  now : Nat
  item : ItemRecord
  messages : List Message
  deliveries : List Attempt

inductive ItemAction
  | tick (elapsed : Nat)
  | deliver (message : Nat)
  | attempt (delivery : Nat) (action : AttemptAction)

def ItemSystem.afterAttempt (system : ItemSystem) (index : Nat) (attempt : Attempt)
    (result : AttemptResult) : ItemSystem :=
  { system with
    item := result.item
    messages := system.messages ++
      result.published.toList.map fun retries => { taskId := attempt.taskId, retries }
    deliveries := system.deliveries.set index result.attempt }

def ItemSystem.afterDelivery (system : ItemSystem) (message : Message) : ItemSystem :=
  { system with
    deliveries := system.deliveries ++ [{
      delivery := system.deliveries.length
      taskId := message.taskId
      retries := message.retries }] }

def itemStep (env : Environment) (task : CaseTask) (system : ItemSystem) :
    ItemAction → Option ItemSystem
  | .tick elapsed => some { system with now := system.now + elapsed }
  | .deliver index => do
      let message ← system.messages[index]?
      return system.afterDelivery message
  | .attempt index action => do
      let attempt ← system.deliveries[index]?
      let result ← attemptStep env task system.now system.item attempt action
      return system.afterAttempt index attempt result

/-- The item as `dispatch_run` commits it, before its message is published. -/
def ItemSystem.created (task : CaseTask) (runId : String) (now : Nat) : ItemSystem where
  now := now
  item := { row := { id := task.runItemId, runId, caseId := task.caseId } }
  messages := []
  deliveries := []

def ItemSystem.publish (system : ItemSystem) (taskId : String) : ItemSystem :=
  { system with messages := system.messages ++ [{ taskId, retries := 0 }] }

def ItemSystem.dispatched (task : CaseTask) (runId taskId : String) (now : Nat) :
    ItemSystem :=
  (ItemSystem.created task runId now).publish taskId

inductive ItemTransition (env : Environment) (task : CaseTask) (system : ItemSystem) :
    ItemAction → ItemSystem → Prop
  | tick (elapsed : Nat) :
      ItemTransition env task system (.tick elapsed) { system with now := system.now + elapsed }
  | deliver (index : Nat) (message : Message)
      (published : system.messages[index]? = some message) :
      ItemTransition env task system (.deliver index) (system.afterDelivery message)
  | attempt (index : Nat) (action : AttemptAction) (attempt : Attempt)
      (result : AttemptResult) (delivered : system.deliveries[index]? = some attempt)
      (transition : AttemptTransition env task system.now system.item attempt action result) :
      ItemTransition env task system (.attempt index action)
        (system.afterAttempt index attempt result)

theorem itemStep_transition {env : Environment} {task : CaseTask} {system next : ItemSystem}
    {action : ItemAction} (stepped : itemStep env task system action = some next) :
    ItemTransition env task system action next := by
  cases action with
  | tick elapsed =>
      cases stepped
      exact .tick elapsed
  | deliver index =>
      rcases Option.bind_eq_some_iff.mp stepped with ⟨message, published, delivered⟩
      cases delivered
      exact .deliver index message published
  | attempt index action =>
      rcases Option.bind_eq_some_iff.mp stepped with ⟨attempt, delivered, rest⟩
      rcases Option.bind_eq_some_iff.mp rest with ⟨result, attempted, updated⟩
      cases updated
      exact .attempt index action attempt result delivered (attemptStep_transition attempted)

theorem mem_afterAttempt {system : ItemSystem} {index : Nat} {attempt other : Attempt}
    {result : AttemptResult}
    (member : other ∈ (system.afterAttempt index attempt result).deliveries) :
    other ∈ system.deliveries ∨ other = result.attempt :=
  List.mem_or_eq_of_mem_set member

theorem afterAttempt_getElem? {system : ItemSystem} {index : Nat} {attempt : Attempt}
    (delivered : system.deliveries[index]? = some attempt) (result : AttemptResult)
    (other : Nat) :
    (system.afterAttempt index attempt result).deliveries[other]? =
      if other = index then some result.attempt else system.deliveries[other]? := by
  have bound := (List.getElem?_eq_some_iff.mp delivered).1
  simp only [ItemSystem.afterAttempt, List.getElem?_set]
  by_cases same : index = other
  · simp [same, same ▸ bound]
  · simp [same, Ne.symm same]

/-! ## A small scenario

One case without an expected output, so that `exact_match` skips it. The runs
that show how deliveries cross are built on it. -/

namespace Scenario

def output : AdapterOutput where
  answer := "Python uses the venv module for virtual environments."
  retrievedChunks := []
  promptUsed := "prompt"
  modelUsed := "deterministic-demo-rag"
  latencyMs := 120
  estimatedCostUsd := 0
  traceSteps := []

def environment : Environment where
  text
    | .str text => text
    | _ => ""
  loadAdapter _ := .ok fun _ _ => .ok output
  evaluators _ _ _ _ := .ok {
    score := none
    passed := none
    details := .dict [("reason", .str "missing expected_output")]
    skipped := true }
  installed _ := true

def case : EvalCase where
  id := "case-1"
  payload := .dict [("input", .str "Which module creates virtual environments?")]

def version : AppVersion where
  id := "version-1"
  appId := "app-1"
  config := .dict []
  adapterModule := "app.adapters.demo_rag"

def evaluatorConfig : EvaluatorConfig where
  id := "config-1"
  config := .dict [("evaluators", .list [.dict [("name", .str "exact_match")]])]

def task : CaseTask where
  runItemId := "item-1"
  caseId := "case-1"
  versionId := "version-1"
  evaluatorConfigId := "config-1"
  case := some case
  version := some version
  evaluatorConfig := some evaluatorConfig

def execute (actions : List ItemAction) : Option ItemSystem :=
  run (itemStep environment task) (.dispatched task "run-1" "task-1" 0) actions

/-- A delivery of a message up to the call of the adapter. -/
def untilReady (message delivery : Nat) : List ItemAction :=
  [.deliver message, .attempt delivery .readStatus, .attempt delivery .claim,
    .attempt delivery .loadEntities]

end Scenario

end EvalForge
