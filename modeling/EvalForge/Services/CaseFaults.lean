import EvalForge.Foundation.Returns
import EvalForge.Services.ExecutorAgreement
import Mathlib.Algebra.GroupWithZero.Nat

/-! # Failures inside the block of a case

`execute_run` with exceptions at every statement of its `try` block that can
raise one. The block changes the item, the counter of completed cases and the
session as it goes along, and the handler takes nothing of that back.
-/

namespace EvalForge

open Foundation

/-! ## The block -/

/-- The statements of the block that can raise. The object that an adapter
returns may lack an attribute which is read here, and the clock, the session or
the stored values may fail. -/
inductive BlockStatement
  | extractQuestion
  | callAdapter
  | readLatency
  | readCost
  | readClock
  | addTrace
  | evaluateCase
  | addResult (index : Nat)
  deriving DecidableEq

/-- The exceptions of a case that are not computed by the modelled code. -/
abbrev Faults := BlockStatement → Option PythonException

structure BlockState where
  item : SessionItem
  completed : Nat

abbrev Block := ExceptT PythonException (StateM BlockState)

namespace Block

def execute (block : Block Result) (state : BlockState) :
    Except PythonException Result × BlockState :=
  block.run state

def reach (faults : Faults) (statement : BlockStatement) : Block Unit :=
  match faults statement with
  | some exc => throw exc
  | none => return ()

def change (next : BlockState → BlockState) : Block Unit :=
  modify next

def changeItem (next : SessionItem → SessionItem) : Block Unit :=
  change fun state => { state with item := next state.item }

def changeRow (next : EvalRunItem → EvalRunItem) : Block Unit :=
  changeItem fun item => { item with row := next item.row }

/-- `session.add` for each result, in their order. -/
def addResults (faults : Faults) : Nat → List EvaluationResult → Block Unit
  | _, [] => return ()
  | index, result :: results => do
      reach faults (.addResult index)
      changeItem fun item => { item with results := item.results ++ [result] }
      addResults faults (index + 1) results

end Block

section Executor

variable (env : Environment) (inputs : ExecutionInputs) (plan : RunPlan) (adapter : Adapter)
variable (faults : Faults)

/-- The block up to the reading of the latency. -/
def fetchOutput (case : EvalCase) : Block AdapterOutput := do
  Block.reach faults .extractQuestion
  let question := env.extractQuestion case.payload
  Block.reach faults .callAdapter
  let output ← adapter question plan.version.config
  Block.reach faults .readLatency
  return output

/-- The block from the recording of the latency on. -/
def recordOutput (case : EvalCase) (completedAt : Nat) (output : AdapterOutput) : Block Unit := do
  Block.changeItem fun item => { item with latencyMs := some output.latencyMs }
  Block.reach faults .readCost
  Block.changeItem fun item => { item with costUsd := some output.estimatedCostUsd }
  Block.changeRow fun row => { row with status := .completed }
  Block.reach faults .readClock
  Block.changeRow fun row => { row with completedAt := some completedAt }
  Block.change fun state => { state with completed := state.completed + 1 }
  Block.reach faults .addTrace
  Block.changeItem fun item =>
    { item with trace := some (tracePayload case plan.version output) }
  Block.reach faults .evaluateCase
  let results ← env.evaluateCase case.payload output plan.evaluatorConfig.config
  Block.addResults faults 0 results

def tryBlock (case : EvalCase) (completedAt : Nat) : Block Unit := do
  let output ← fetchOutput env plan adapter faults case
  recordOutput env plan faults case completedAt output

/-- The body of the loop. The handler counts the case as errored. -/
def executeFaultedCase (runId : String) (index : Nat) (case : EvalCase) : CaseExecution :=
  let row : EvalRunItem :=
    { id := inputs.newUuid (index + 1), runId, caseId := case.id, status := .running,
      startedAt := some (inputs.utcNow (2 * index + 1)) }
  let completedAt := inputs.utcNow (2 * index + 2)
  match (tryBlock env plan adapter faults case completedAt).execute
      { item := { row }, completed := 0 } with
  | (.ok (), ended) => { item := ended.item, completed := ended.completed, errored := 0 }
  | (.error exc, ended) =>
      { item := { ended.item with
          row := { ended.item.row with
            status := .errored, errorMessage := some exc.message
            completedAt := some completedAt } }
        completed := ended.completed, errored := 1 }

end Executor

def loopCases (storesJson : Json → Bool) (integrityError : PythonException)
    (execute : Nat → EvalCase → CaseExecution) (index completed errored : Nat) :
    List EvalCase → Except RunError (List ItemRecord × Nat × Nat)
  | [] => .ok ([], completed, errored)
  | case :: cases =>
      let execution := execute index case
      match execution.item.flush storesJson with
      | none => .error (.raised integrityError)
      | some item => do
          let (items, completed, errored) ← loopCases storesJson integrityError execute
            (index + 1) (completed + execution.completed) (errored + execution.errored) cases
          return (item :: items, completed, errored)

/-- `execute_run` with the faults of each case, by its position. -/
def executeFaultedRun (env : Environment) (inputs : ExecutionInputs) (request : RunRequest)
    (faults : Nat → Faults) : Except RunError RunRecord := do
  let plan ← request.check
  let adapter ← (env.loadAdapter plan.version.adapterModule).mapError .raised
  let run := plan.newRun request.organizationId (inputs.newUuid 0) (inputs.utcNow 0)
  let (items, completed, errored) ←
    loopCases env.storesJson inputs.integrityError (fun index case =>
      executeFaultedCase env inputs plan adapter (faults index) run.id index case) 0 0 0 plan.cases
  return {
    run := { run with
      caseCompleted := completed
      caseErrored := errored
      completedAt := some (inputs.utcNow (2 * plan.cases.length + 1))
      status := if errored = 0 then .completed else .partialRun }
    items }

/-! ## How a block ends -/

namespace Block

variable {faults : Faults} {statement : BlockStatement} {state : BlockState}

theorem execute_bind_ok {block : Block Result} {next : Result → Block Final} {result : Result}
    {ended : BlockState} (ran : block.execute state = (.ok result, ended)) :
    (block >>= next).execute state = (next result).execute ended := by
  have bound : (block >>= next).execute state =
      ExceptT.bindCont next (block.execute state).1 (block.execute state).2 := rfl
  rw [bound, ran]
  rfl

theorem execute_bind_error {block : Block Result} {next : Result → Block Final}
    {exc : PythonException} {ended : BlockState}
    (ran : block.execute state = (.error exc, ended)) :
    (block >>= next).execute state = (.error exc, ended) := by
  have bound : (block >>= next).execute state =
      ExceptT.bindCont next (block.execute state).1 (block.execute state).2 := rfl
  rw [bound, ran]
  rfl

theorem execute_reach_none (passes : faults statement = none) :
    (reach faults statement).execute state = (.ok (), state) := by
  rw [reach, passes]
  rfl

theorem execute_reach_some {exc : PythonException} (raises : faults statement = some exc) :
    (reach faults statement).execute state = (.error exc, state) := by
  rw [reach, raises]
  rfl

theorem execute_change (next : BlockState → BlockState) :
    (change next).execute state = (.ok (), next state) := rfl

theorem execute_lift_ok {computation : Except PythonException Result} {result : Result}
    (returned : computation = .ok result) :
    Block.execute computation state = (.ok result, state) := by
  rw [returned]
  rfl

/-- Results are added until a statement raises; only the evidence changes. -/
theorem execute_addResults (results : List EvaluationResult) (index : Nat) (state : BlockState)
    (passes : ∀ position < results.length, faults (.addResult (index + position)) = none) :
    (addResults faults index results).execute state =
      (.ok (), { state with
        item := { state.item with results := state.item.results ++ results } }) := by
  induction results generalizing index state with
  | nil =>
      rw [List.append_nil]
      rfl
  | cons result results induction =>
      have first : faults (.addResult index) = none := passes 0 (Nat.zero_lt_succ _)
      have rest : ∀ position < results.length, faults (.addResult (index + 1 + position)) = none := by
        intro position bound
        rw [Nat.add_assoc, Nat.add_comm 1]
        exact passes (position + 1) (Nat.succ_lt_succ bound)
      rw [addResults, execute_bind_ok (execute_reach_none first),
        changeItem, execute_bind_ok (execute_change _), induction _ _ rest]
      simp

theorem execute_addResults_error (results : List EvaluationResult) (index : Nat)
    (state : BlockState)
    (raises : ¬∀ position < results.length, faults (.addResult (index + position)) = none) :
    ∃ exc ended, (addResults faults index results).execute state = (.error exc, ended) ∧
      ended.item.latencyMs = state.item.latencyMs := by
  induction results generalizing index state with
  | nil => exact absurd (fun position bound => absurd bound (Nat.not_lt_zero _)) raises
  | cons result results induction =>
      rw [addResults]
      cases first : faults (.addResult index) with
      | some exc => exact ⟨exc, state, execute_bind_error (execute_reach_some first), rfl⟩
      | none =>
          rw [execute_bind_ok (execute_reach_none first), changeItem,
            execute_bind_ok (execute_change _)]
          apply induction
          intro rest
          apply raises
          intro position bound
          cases position with
          | zero => exact first
          | succ position =>
              rw [Nat.add_comm position, ← Nat.add_assoc]
              exact rest position (Nat.lt_of_succ_lt_succ bound)

end Block

/-! ## The conditions on a case -/

structure LatencyRead (env : Environment) (plan : RunPlan) (adapter : Adapter) (faults : Faults)
    (case : EvalCase) (output : AdapterOutput) : Prop where
  question : faults .extractQuestion = none
  call : faults .callAdapter = none
  answered : adapter (env.extractQuestion case.payload) plan.version.config = .ok output
  latency : faults .readLatency = none

structure Unhindered (faults : Faults) (config : Json) : Prop where
  cost : faults .readCost = none
  clock : faults .readClock = none
  trace : faults .addTrace = none
  evaluation : faults .evaluateCase = none
  results : ∃ specs, (config.get "evaluators" (.list [])).iterate = .ok specs ∧
    (∀ spec ∈ specs, spec.isDict = true) ∧
    ∀ index < specs.length, faults (.addResult index) = none

def FailsLate (env : Environment) (plan : RunPlan) (adapter : Adapter) (faults : Faults)
    (case : EvalCase) : Prop :=
  (∃ output, LatencyRead env plan adapter faults case output) ∧
    ¬Unhindered faults plan.evaluatorConfig.config

section Evaluated

variable {env : Environment} {payload config : Json} {output : AdapterOutput}

theorem Environment.evaluateCase_of_dicts {specs : List Json}
    (held : (config.get "evaluators" (.list [])).iterate = .ok specs)
    (areDicts : ∀ spec ∈ specs, spec.isDict = true) :
    ∃ results, env.evaluateCase payload output config = .ok results ∧
      results.length = specs.length := by
  rcases mapM_evaluateSpec_ok areDicts payload output with ⟨results, evaluated⟩
  refine ⟨results, ?_, ?_⟩
  · rw [evaluateCase, held]
    exact evaluated
  · exact (forall₂_of_mapM evaluated).length_eq.symm

theorem Environment.dicts_of_evaluateCase {results : List EvaluationResult}
    (evaluated : env.evaluateCase payload output config = .ok results) :
    ∃ specs, (config.get "evaluators" (.list [])).iterate = .ok specs ∧
      (∀ spec ∈ specs, spec.isDict = true) ∧ results.length = specs.length := by
  rcases forall₂_of_evaluateCase evaluated with ⟨specs, held, each⟩
  refine ⟨specs, held, ?_, each.length_eq.symm⟩
  intro spec member
  rcases forall₂_exists_left each.flip spec member with ⟨result, _, one⟩
  cases isDict : spec.isDict with
  | true => rfl
  | false => simp [evaluateSpec, isDict] at one

theorem Unhindered.iff_results {faults : Faults} (cost : faults .readCost = none)
    (clock : faults .readClock = none) (trace : faults .addTrace = none)
    (evaluation : faults .evaluateCase = none) :
    Unhindered faults config ↔ ∃ results, env.evaluateCase payload output config = .ok results ∧
      ∀ index < results.length, faults (.addResult index) = none := by
  constructor
  · intro unhindered
    rcases unhindered.results with ⟨specs, held, areDicts, passes⟩
    rcases Environment.evaluateCase_of_dicts held areDicts with ⟨results, evaluated, length⟩
    exact ⟨results, evaluated, length ▸ passes⟩
  · rintro ⟨results, evaluated, passes⟩
    rcases Environment.dicts_of_evaluateCase evaluated with ⟨specs, held, areDicts, length⟩
    exact ⟨cost, clock, trace, evaluation, specs, held, areDicts, length ▸ passes⟩

end Evaluated

/-! ## How a case ends -/

section Case

variable {env : Environment} {inputs : ExecutionInputs} {plan : RunPlan} {adapter : Adapter}
variable {faults : Faults} {case : EvalCase} {output : AdapterOutput} {state : BlockState}
variable {completedAt : Nat}

theorem execute_fetchOutput (read : LatencyRead env plan adapter faults case output) :
    (fetchOutput env plan adapter faults case).execute state = (.ok output, state) := by
  rw [fetchOutput, Block.execute_bind_ok (Block.execute_reach_none read.question),
    Block.execute_bind_ok (Block.execute_reach_none read.call),
    Block.execute_bind_ok (Block.execute_lift_ok read.answered),
    Block.execute_bind_ok (Block.execute_reach_none read.latency)]
  rfl

theorem execute_fetchOutput_error
    (unread : ¬∃ output, LatencyRead env plan adapter faults case output) :
    ∃ exc, (fetchOutput env plan adapter faults case).execute state = (.error exc, state) := by
  rw [fetchOutput]
  cases question : faults .extractQuestion with
  | some exc => exact ⟨exc, Block.execute_bind_error (Block.execute_reach_some question)⟩
  | none =>
      rw [Block.execute_bind_ok (Block.execute_reach_none question)]
      cases call : faults .callAdapter with
      | some exc => exact ⟨exc, Block.execute_bind_error (Block.execute_reach_some call)⟩
      | none =>
          rw [Block.execute_bind_ok (Block.execute_reach_none call)]
          cases answered : adapter (env.extractQuestion case.payload) plan.version.config with
          | error exc => exact ⟨exc, Block.execute_bind_error rfl⟩
          | ok output =>
              rw [Block.execute_bind_ok (Block.execute_lift_ok rfl)]
              cases latency : faults .readLatency with
              | some exc =>
                  exact ⟨exc, Block.execute_bind_error (Block.execute_reach_some latency)⟩
              | none => exact absurd ⟨output, question, call, answered, latency⟩ unread

def recordedState (plan : RunPlan) (case : EvalCase) (completedAt : Nat) (output : AdapterOutput)
    (results : List EvaluationResult) (state : BlockState) : BlockState where
  item :=
    { state.item with
      row := { state.item.row with status := .completed, completedAt := some completedAt }
      latencyMs := some output.latencyMs
      costUsd := some output.estimatedCostUsd
      trace := some (tracePayload case plan.version output)
      results := state.item.results ++ results }
  completed := state.completed + 1

theorem execute_recordOutput {results : List EvaluationResult}
    (unhindered : Unhindered faults plan.evaluatorConfig.config)
    (evaluated : env.evaluateCase case.payload output plan.evaluatorConfig.config = .ok results) :
    (recordOutput env plan faults case completedAt output).execute state =
      (.ok (), recordedState plan case completedAt output results state) := by
  have passes : ∀ position < results.length, faults (.addResult (0 + position)) = none := by
    intro position bound
    rcases (Unhindered.iff_results unhindered.cost unhindered.clock unhindered.trace
      unhindered.evaluation).mp unhindered with ⟨others, otherEvaluated, passes⟩
    cases evaluated.symm.trans otherEvaluated
    rw [Nat.zero_add]
    exact passes position bound
  simp only [recordOutput, Block.changeRow, Block.changeItem]
  rw [Block.execute_bind_ok (Block.execute_change _),
    Block.execute_bind_ok (Block.execute_reach_none unhindered.cost),
    Block.execute_bind_ok (Block.execute_change _),
    Block.execute_bind_ok (Block.execute_change _),
    Block.execute_bind_ok (Block.execute_reach_none unhindered.clock),
    Block.execute_bind_ok (Block.execute_change _),
    Block.execute_bind_ok (Block.execute_change _),
    Block.execute_bind_ok (Block.execute_reach_none unhindered.trace),
    Block.execute_bind_ok (Block.execute_change _),
    Block.execute_bind_ok (Block.execute_reach_none unhindered.evaluation),
    Block.execute_bind_ok (Block.execute_lift_ok evaluated),
    Block.execute_addResults _ _ _ passes]
  rfl

theorem execute_recordOutput_error
    (hindered : ¬Unhindered faults plan.evaluatorConfig.config) :
    ∃ exc ended, (recordOutput env plan faults case completedAt output).execute state =
        (.error exc, ended) ∧
      ended.item.latencyMs = some output.latencyMs := by
  simp only [recordOutput, Block.changeRow, Block.changeItem]
  rw [Block.execute_bind_ok (Block.execute_change _)]
  cases cost : faults .readCost with
  | some exc => exact ⟨exc, _, Block.execute_bind_error (Block.execute_reach_some cost), rfl⟩
  | none =>
      rw [Block.execute_bind_ok (Block.execute_reach_none cost),
        Block.execute_bind_ok (Block.execute_change _),
        Block.execute_bind_ok (Block.execute_change _)]
      cases clock : faults .readClock with
      | some exc => exact ⟨exc, _, Block.execute_bind_error (Block.execute_reach_some clock), rfl⟩
      | none =>
          rw [Block.execute_bind_ok (Block.execute_reach_none clock),
            Block.execute_bind_ok (Block.execute_change _),
            Block.execute_bind_ok (Block.execute_change _)]
          cases trace : faults .addTrace with
          | some exc =>
              exact ⟨exc, _, Block.execute_bind_error (Block.execute_reach_some trace), rfl⟩
          | none =>
              rw [Block.execute_bind_ok (Block.execute_reach_none trace),
                Block.execute_bind_ok (Block.execute_change _)]
              cases evaluation : faults .evaluateCase with
              | some exc =>
                  exact ⟨exc, _, Block.execute_bind_error (Block.execute_reach_some evaluation),
                    rfl⟩
              | none =>
                  rw [Block.execute_bind_ok (Block.execute_reach_none evaluation)]
                  cases evaluated : env.evaluateCase case.payload output
                      plan.evaluatorConfig.config with
                  | error exc => exact ⟨exc, _, Block.execute_bind_error rfl, rfl⟩
                  | ok results =>
                      rw [Block.execute_bind_ok (Block.execute_lift_ok rfl)]
                      have raises : ¬∀ position < results.length,
                          faults (.addResult (0 + position)) = none := by
                        intro passes
                        simp only [Nat.zero_add] at passes
                        exact hindered ((Unhindered.iff_results cost clock trace evaluation).mpr
                          ⟨results, evaluated, passes⟩)
                      rcases Block.execute_addResults_error results 0 _ raises with
                        ⟨exc, ended, ran, sameLatency⟩
                      exact ⟨exc, ended, ran, sameLatency⟩

end Case

/-- The case is counted once, and an errored one has left nothing behind. -/
inductive CleanExecution : CaseExecution → Prop
  | completed (execution : CaseExecution) (status : execution.item.row.status = .completed)
      (completed : execution.completed = 1) (errored : execution.errored = 0) :
      CleanExecution execution
  | errored (execution : CaseExecution) (status : execution.item.row.status = .errored)
      (completed : execution.completed = 0) (errored : execution.errored = 1)
      (trace : execution.item.trace = none) (results : execution.item.results = [])
      (latency : execution.item.latencyMs = none) (cost : execution.item.costUsd = none) :
      CleanExecution execution

section Execution

variable {env : Environment} {inputs : ExecutionInputs} {plan : RunPlan} {adapter : Adapter}
variable {faults : Faults} {runId : String} {index : Nat} {case : EvalCase}

theorem executeFaultedCase_clean (early : ¬FailsLate env plan adapter faults case) :
    CleanExecution (executeFaultedCase env inputs plan adapter faults runId index case) := by
  by_cases read : ∃ output, LatencyRead env plan adapter faults case output
  · have unhindered : Unhindered faults plan.evaluatorConfig.config := by
      by_contra hindered
      exact early ⟨read, hindered⟩
    rcases read with ⟨output, read⟩
    rcases unhindered.results with ⟨specs, held, areDicts, _⟩
    rcases env.evaluateCase_of_dicts held areDicts with ⟨results, evaluated, _⟩
    rw [executeFaultedCase, tryBlock, Block.execute_bind_ok (execute_fetchOutput read),
      execute_recordOutput unhindered evaluated]
    exact .completed _ rfl rfl rfl
  · rw [executeFaultedCase, tryBlock]
    rcases execute_fetchOutput_error read with ⟨exc, raised⟩
    rw [Block.execute_bind_error raised]
    exact .errored _ rfl rfl rfl rfl rfl rfl rfl

theorem executeFaultedCase_late (late : FailsLate env plan adapter faults case) :
    (executeFaultedCase env inputs plan adapter faults runId index case).item.row.status =
        .errored ∧
      (executeFaultedCase env inputs plan adapter faults runId index case).item.latencyMs ≠
        none := by
  rcases late with ⟨⟨output, read⟩, hindered⟩
  rw [executeFaultedCase, tryBlock, Block.execute_bind_ok (execute_fetchOutput read)]
  rcases execute_recordOutput_error hindered with ⟨exc, ended, raised, latency⟩
  rw [raised]
  exact ⟨rfl, by simp [latency]⟩

end Execution

/-! ## How a run ends -/

section Loop

variable {storesJson : Json → Bool} {integrityError : PythonException}
variable {execute : Nat → EvalCase → CaseExecution}

def CaseExecution.Leaves (execution : CaseExecution) (item : ItemRecord) : Prop :=
  execution.item.Flushed item

theorem loopCases_ok {cases : List EvalCase} {index completed errored : Nat}
    {items : List ItemRecord} {counts : Nat × Nat}
    (executed : loopCases storesJson integrityError execute index completed errored cases =
      .ok (items, counts)) :
    let executions := (cases.zipIdx index).map fun case => execute case.2 case.1
    List.Forall₂ CaseExecution.Leaves executions items ∧
      counts.1 = completed + (executions.map (·.completed)).sum ∧
      counts.2 = errored + (executions.map (·.errored)).sum := by
  induction cases generalizing index completed errored items counts with
  | nil =>
      cases executed
      exact ⟨.nil, rfl, rfl⟩
  | cons case cases induction =>
      rw [loopCases] at executed
      dsimp only at executed
      split at executed
      · cases executed
      · next item flushed =>
        cases rest : loopCases storesJson integrityError execute (index + 1)
            (completed + (execute index case).completed)
            (errored + (execute index case).errored) cases with
        | error refused => simp [rest, bind, Except.bind] at executed
        | ok result =>
            simp only [rest, bind, Except.bind, pure, Except.pure] at executed
            cases executed
            rcases induction rest with ⟨others, completedSum, erroredSum⟩
            refine ⟨.cons (SessionItem.flush_some flushed).2 others, ?_, ?_⟩
            · rw [completedSum, Nat.add_assoc]
              rfl
            · rw [erroredSum, Nat.add_assoc]
              rfl

theorem counts_of_clean {executions : List CaseExecution} {items : List ItemRecord}
    (leaves : List.Forall₂ CaseExecution.Leaves executions items)
    (clean : ∀ execution ∈ executions, CleanExecution execution) :
    (executions.map (·.completed)).sum =
        items.countP (fun item => item.row.status == .completed) ∧
      (executions.map (·.errored)).sum =
        items.countP (fun item => item.row.status == .errored) ∧
      (executions.map (·.completed)).sum + (executions.map (·.errored)).sum =
        executions.length := by
  induction leaves with
  | nil => exact ⟨rfl, rfl, rfl⟩
  | cons left others induction =>
      rcases induction fun other member => clean other (List.mem_cons_of_mem _ member) with
        ⟨completedSum, erroredSum, total⟩
      simp only [List.map_cons, List.sum_cons, List.countP_cons, List.length_cons]
      rw [left.status]
      cases clean _ List.mem_cons_self with
      | completed status completed errored =>
          simp only [status, completed, errored, completedSum, erroredSum]
          refine ⟨?_, ?_, ?_⟩
          · simp [Nat.add_comm]
          · simp
          · omega
      | errored status completed errored =>
          simp only [status, completed, errored, completedSum, erroredSum]
          refine ⟨?_, ?_, ?_⟩
          · simp
          · simp [Nat.add_comm]
          · omega

end Loop

/-- The counters of a run partition its items, and an errored item has left
nothing but its error. -/
structure CountersPartition (record : RunRecord) : Prop where
  total : record.run.caseCompleted + record.run.caseErrored = record.run.caseCount
  count : record.run.caseCount = record.items.length
  completed : record.run.caseCompleted =
    record.items.countP fun item => item.row.status == .completed
  errored : record.run.caseErrored = record.items.countP fun item => item.row.status == .errored
  status : record.run.status = .completed ↔ ∀ item ∈ record.items, item.row.status ≠ .errored
  clean : ∀ item ∈ record.items, item.row.status = .errored →
    item.traces = [] ∧ item.results = [] ∧
      item.row.recordedLatencyMs = none ∧ item.row.recordedCostUsd = none

section Run

variable {env : Environment} {inputs : ExecutionInputs} {request : RunRequest} {plan : RunPlan}
variable {adapter : Adapter} {record : RunRecord} {faults : Nat → Faults}

/-- What a run leaves, by the executions of its cases. -/
theorem executeFaultedRun_ok (checked : request.check = .ok plan)
    (loaded : env.loadAdapter plan.version.adapterModule = .ok adapter)
    (executed : executeFaultedRun env inputs request faults = .ok record) :
    ∃ executions : List CaseExecution,
      executions = plan.cases.zipIdx.map (fun case =>
        executeFaultedCase env inputs plan adapter (faults case.2) (inputs.newUuid 0) case.2
          case.1) ∧
      List.Forall₂ CaseExecution.Leaves executions record.items ∧
      record.run.caseCount = plan.cases.length ∧
      record.run.caseCompleted = (executions.map (·.completed)).sum ∧
      record.run.caseErrored = (executions.map (·.errored)).sum ∧
      record.run.status = if record.run.caseErrored = 0 then .completed else .partialRun := by
  rw [executeFaultedRun, checked] at executed
  simp only [bind, Except.bind, loaded, Except.mapError, RunPlan.newRun] at executed
  split at executed
  · cases executed
  · next result ran =>
    rcases result with ⟨items, completed, errored⟩
    cases executed
    rcases loopCases_ok ran with ⟨held, completedSum, erroredSum⟩
    rw [Nat.zero_add] at completedSum erroredSum
    exact ⟨_, rfl, held, rfl, completedSum, erroredSum, rfl⟩

/-- The counters partition the cases exactly when no case fails after its
latency was recorded. -/
theorem run_counters_partition_iff (checked : request.check = .ok plan)
    (loaded : env.loadAdapter plan.version.adapterModule = .ok adapter)
    (executed : executeFaultedRun env inputs request faults = .ok record) :
    CountersPartition record ↔ ∀ index case, plan.cases[index]? = some case →
      ¬FailsLate env plan adapter (faults index) case := by
  rcases executeFaultedRun_ok checked loaded executed with
    ⟨executions, ran, leaves, caseCount, caseCompleted, caseErrored, status⟩
  constructor
  · intro partitioned index case held late
    have member : executeFaultedCase env inputs plan adapter (faults index) (inputs.newUuid 0)
        index case ∈ executions := by
      rw [ran]
      exact List.mem_map.mpr ⟨(case, index), List.mem_zipIdx_iff_getElem?.mpr held, rfl⟩
    rcases forall₂_exists_left leaves.flip _ member with ⟨item, itemMember, left⟩
    rcases executeFaultedCase_late late with ⟨errored, recorded⟩
    rcases partitioned.clean item itemMember (left.status.trans errored) with ⟨_, _, latency, _⟩
    exact recorded (left.latency.symm.trans latency)
  · intro early
    have clean : ∀ execution ∈ executions, CleanExecution execution := by
      intro execution member
      rw [ran] at member
      rcases List.mem_map.mp member with ⟨⟨case, index⟩, held, rfl⟩
      exact executeFaultedCase_clean (early index case (List.mem_zipIdx_iff_getElem?.mp held))
    rcases counts_of_clean leaves clean with ⟨completedSum, erroredSum, total⟩
    have length : executions.length = plan.cases.length := by
      rw [ran, List.length_map, List.length_zipIdx]
    have errored : record.run.caseErrored =
        record.items.countP fun item => item.row.status == .errored := by
      rw [caseErrored, erroredSum]
    refine ⟨?_, ?_, ?_, errored, ?_, ?_⟩
    · rw [caseCompleted, caseErrored, caseCount, total, length]
    · rw [caseCount, ← leaves.length_eq, length]
    · rw [caseCompleted, completedSum]
    · have noneErrored : record.run.caseErrored = 0 ↔
          ∀ item ∈ record.items, item.row.status ≠ .errored := by
        rw [errored, List.countP_eq_zero]
        simp
      rw [status, ← noneErrored]
      split
      · next zero => exact iff_of_true rfl zero
      · next someErrored => exact iff_of_false nofun someErrored
    · intro item member failed
      rcases forall₂_exists_left leaves item member with ⟨execution, held, left⟩
      rw [left.status] at failed
      cases clean execution held with
      | completed status =>
          rw [status] at failed
          cases failed
      | errored _ _ _ trace results latency cost =>
          refine ⟨?_, ?_, left.latency.trans latency, ?_⟩
          · rw [left.traces, trace]
            rfl
          · have rows := left.results
            rw [results] at rows
            exact List.map_eq_nil_iff.mp rows
          · rw [left.cost, cost]
            rfl

end Run

/-! ## Without faults -/

section NoFaults

variable {env : Environment} {inputs : ExecutionInputs} {plan : RunPlan} {adapter : Adapter}

theorem executeFaultedCase_of_no_faults (runId : String) (index : Nat) (case : EvalCase) :
    executeFaultedCase env inputs plan adapter (fun _ => none) runId index case =
      executeCase env inputs plan adapter runId index case := by
  rw [executeFaultedCase, tryBlock, executeCase]
  cases answered : adapter (env.extractQuestion case.payload) plan.version.config with
  | error exc =>
      have raised : ∀ state, (fetchOutput env plan adapter (fun _ => none) case).execute state =
          (.error exc, state) := by
        intro state
        simp only [fetchOutput, answered]
        rfl
      rw [Block.execute_bind_error (raised _)]
  | ok output =>
      have read : LatencyRead env plan adapter (fun _ => none) case output :=
        ⟨rfl, rfl, answered, rfl⟩
      rw [Block.execute_bind_ok (execute_fetchOutput read)]
      cases evaluated : env.evaluateCase case.payload output plan.evaluatorConfig.config with
      | error exc =>
          simp only [recordOutput, evaluated]
          rfl
      | ok results =>
          have unhindered : Unhindered (fun _ => none) plan.evaluatorConfig.config :=
            (Unhindered.iff_results rfl rfl rfl rfl).mpr ⟨results, evaluated, fun _ _ => rfl⟩
          rw [execute_recordOutput unhindered evaluated]
          simp only [evaluated]
          rfl

theorem loopCases_executeCase (runId : String) (cases : List EvalCase)
    (index completed errored : Nat) :
    loopCases env.storesJson inputs.integrityError (executeCase env inputs plan adapter runId)
        index completed errored cases =
      executeCases env inputs plan adapter runId index completed errored cases := by
  induction cases generalizing index completed errored with
  | nil => rfl
  | cons case cases induction =>
      rw [loopCases, executeCases]
      cases (executeCase env inputs plan adapter runId index case).item.flush env.storesJson with
      | none => rfl
      | some item => simp only [induction]

/-- Without faults this is the executor. -/
theorem executeFaultedRun_of_no_faults (env : Environment) (inputs : ExecutionInputs)
    (request : RunRequest) :
    executeFaultedRun env inputs request (fun _ _ => none) = executeRun env inputs request := by
  simp only [executeFaultedRun, executeRun, executeFaultedCase_of_no_faults,
    loopCases_executeCase]

end NoFaults

namespace Scenario

/-- An adapter whose output has a latency and a cost, but no trace steps. -/
def withoutTraceSteps : Faults
  | .addTrace => some ⟨"'Answer' object has no attribute 'trace_steps'"⟩
  | _ => none

def firstCaseFaults (index : Nat) : Faults :=
  if index = 0 then withoutTraceSteps else fun _ => none

def faultedRun : Except RunError RunRecord :=
  executeFaultedRun environment executionInputs request firstCaseFaults

theorem faultedRun_counts :
    faultedRun.map (fun record =>
      (record.run.caseCompleted, record.run.caseErrored, record.run.caseCount)) =
        .ok (2, 1, 2) := by
  with_unfolding_all rfl

theorem run_counters_partition_iff_scenario :
    ∃ record, faultedRun = .ok record ∧
      (CountersPartition record ↔ ∀ index case, plan.cases[index]? = some case →
        ¬FailsLate environment plan (fun _ _ => .ok output) (firstCaseFaults index) case) := by
  have counts := faultedRun_counts
  cases ran : faultedRun with
  | error refused => simp [ran, Except.map] at counts
  | ok record => exact ⟨record, rfl, run_counters_partition_iff rfl rfl ran⟩

theorem case_counted_twice :
    ∃ record, faultedRun = .ok record ∧ ¬CountersPartition record := by
  have counts := faultedRun_counts
  cases ran : faultedRun with
  | error refused => simp [ran, Except.map] at counts
  | ok record =>
      refine ⟨record, rfl, fun partitioned => ?_⟩
      have total := partitioned.total
      simp [ran, Except.map] at counts
      omega

end Scenario

end EvalForge
