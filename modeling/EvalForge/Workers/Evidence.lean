import EvalForge.Workers.Deliveries

/-! # Evidence of a terminal item

What the trace and the evaluator results of an item record, and which steps of
a delivery keep them. The guarded claim, the status check and the unique
constraints protect an item against late deliveries except at three writes,
and these are named here.
-/

namespace EvalForge

open Foundation

def PhaseSound (env : Environment) (task : CaseTask) : Phase → Prop
  | .staleData inputs | .ready inputs => task.loadEntities = .ok inputs
  | .evaluated inputs output results _ =>
      task.loadEntities = .ok inputs ∧
        env.evaluateCase inputs.case.payload output inputs.evaluatorConfig.config = .ok results
  | _ => True

/-- The item records the adapter output and the evaluator results of one
delivery. -/
structure RecordedBy (env : Environment) (task : CaseTask) (item : ItemRecord)
    (delivery : Nat) (inputs : CaseInputs) (output : AdapterOutput)
    (results : List EvaluationResult) : Prop where
  loaded : task.loadEntities = .ok inputs
  evaluated : env.evaluateCase inputs.case.payload output
    inputs.evaluatorConfig.config = .ok results
  trace : item.traces =
    [{ payload := tracePayload inputs.case inputs.version output, writtenBy := delivery }]
  rows : item.results.map (·.toEvaluationResult) = results.map (·.rounded)
  writtenBy : ∀ result ∈ item.results, result.writtenBy = delivery
  latency : item.row.recordedLatencyMs = some output.latencyMs
  cost : item.row.recordedCostUsd = some (Column.numeric output.estimatedCostUsd)
  nodup : (results.map (·.evaluatorName)).Nodup

/-- An item is completed with the evidence of one delivery, or it has none. -/
structure Evidence (env : Environment) (task : CaseTask) (item : ItemRecord) : Prop where
  known : item.row.status ≠ .timedOut ∧ item.row.status ≠ .cancelled
  completed : item.row.status = .completed →
    ∃ delivery inputs output results, RecordedBy env task item delivery inputs output results
  empty : item.row.status ≠ .completed →
    item.traces = [] ∧ item.results = [] ∧
      item.row.recordedLatencyMs = none ∧ item.row.recordedCostUsd = none

section Attempt

variable {env : Environment} {task : CaseTask} {now : Nat} {item : ItemRecord}
variable {attempt : Attempt} {action : AttemptAction} {result : AttemptResult}

theorem Evidence.traces_ne_nil (evidence : Evidence env task item)
    (completed : item.row.status = .completed) : item.traces ≠ [] := by
  rcases evidence.completed completed with ⟨delivery, inputs, output, results, recorded⟩
  simp [recorded.trace]

theorem claimRunItem_some {taskId : String} {attemptCount : Nat} {row claimed : EvalRunItem}
    (claims : claimRunItem now taskId attemptCount row = some claimed) :
    claimable now taskId row = true ∧ claimed = { row with
      status := .running
      workerTaskId := some taskId
      leaseExpiresAt := some (now + taskLease)
      attemptCount
      startedAt := some now
      completedAt := none
      errorMessage := none } := by
  unfold claimRunItem at claims
  split at claims
  · next able => exact ⟨able, (Option.some.inj claims).symm⟩
  · cases claims

theorem claimable_not_terminal {taskId : String} {row : EvalRunItem}
    (able : claimable now taskId row = true) : row.status.terminal = false := by
  cases status : row.status <;> simp_all [claimable]

/-- The writes by primary key that can destroy the evidence of a completed item. -/
def AttemptAction.erases : AttemptAction → Bool
  | .clearStaleData | .commitError => true
  | _ => false

theorem AttemptTransition.phaseSound
    (transition : AttemptTransition env task now item attempt action result)
    (sound : PhaseSound env task attempt.phase) : PhaseSound env task result.attempt.phase := by
  cases transition with
  | loadStale inputs _ loaded => exact loaded
  | load inputs _ loaded => exact loaded
  | clear inputs phase =>
      rw [phase] at sound
      exact sound
  | evaluate inputs output results phase evaluated =>
      rw [phase] at sound
      exact ⟨sound, evaluated⟩
  | _ => trivial

theorem Evidence.not_completed_of_stored (evidence : Evidence env task item)
    {results : List EvaluationResult} (stored : item.conflicts results = false) :
    item.row.status ≠ .completed := by
  intro completed
  rw [ItemRecord.conflicts_of_traces_ne_nil (evidence.traces_ne_nil completed)] at stored
  cases stored

theorem Evidence.recordedBy_commitSuccess (evidence : Evidence env task item)
    {inputs : CaseInputs} {output : AdapterOutput} {results : List EvaluationResult}
    (loaded : task.loadEntities = .ok inputs)
    (evaluated : env.evaluateCase inputs.case.payload output
      inputs.evaluatorConfig.config = .ok results)
    {completedAt delivery : Nat} {committed : ItemRecord}
    (stored : commitSuccess env.storesJson item inputs output results completedAt delivery =
      some committed) :
    RecordedBy env task committed delivery inputs output results := by
  rcases commitSuccess_some stored with ⟨held, success⟩
  rcases success.row with ⟨latencyHeld, costHeld, row⟩
  have traces := success.traces
  have notCompleted := evidence.not_completed_of_stored held.free
  rcases evidence.empty notCompleted with ⟨noTraces, noResults, _⟩
  have nodup : (results.map (·.evaluatorName)).Nodup := by
    simpa [ItemRecord.conflicts_of_empty noTraces noResults] using held.free
  rw [noTraces, List.nil_append] at traces
  rcases success.results_of_empty noResults with ⟨rows, writtenBy⟩
  exact ⟨loaded, evaluated, traces, rows, writtenBy, by rw [row], by rw [row], nodup⟩

theorem AttemptTransition.evidence
    (transition : AttemptTransition env task now item attempt action result)
    (sound : PhaseSound env task attempt.phase) (evidence : Evidence env task item)
    (kept : action.erases = true → item.row.status ≠ .completed) :
    Evidence env task result.item := by
  cases transition with
  | claim row _ claims =>
      rcases claimRunItem_some claims with ⟨able, rfl⟩
      have live := claimable_not_terminal able
      have notCompleted : item.row.status ≠ .completed := by
        intro completed
        simp [completed] at live
      exact ⟨by simp, by simp, fun _ => evidence.empty notCompleted⟩
  | clear _ _ =>
      have notCompleted := kept rfl
      have empty := evidence.empty notCompleted
      exact ⟨evidence.known, fun completed => absurd completed notCompleted,
        fun _ => ⟨rfl, rfl, empty.2.2⟩⟩
  | record _ _ _ _ =>
      have empty := evidence.empty (kept rfl)
      exact ⟨by simp [Attempt.enter, commitError], by simp [Attempt.enter, commitError],
        fun _ => empty⟩
  | commit inputs output results completedAt _ committed phase stored =>
      rw [phase] at sound
      have recorded := evidence.recordedBy_commitSuccess sound.1 sound.2 stored
      have status := (commitSuccess_some stored).2.completed
      exact ⟨by simp [Attempt.enter, status],
        fun _ => ⟨attempt.delivery, inputs, output, results, recorded⟩,
        by simp [Attempt.enter, status]⟩
  | _ => exact evidence

end Attempt

end EvalForge
