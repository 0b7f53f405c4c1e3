import EvalForge.Evaluators.Engine
import EvalForge.Models.Columns

/-! # Stored entities

The rows of the run tables. Instants are microseconds. A run item is kept
together with the rows that reference it: its traces and its evaluator results.
What the adapters and evaluators make is only a row once its columns hold it; the
other values come checked, and are stored as they are given.
-/

namespace EvalForge

inductive ItemStatus
  | queued
  | running
  | completed
  | errored
  | timedOut
  | cancelled
  deriving DecidableEq, Repr

namespace ItemStatus

def text : ItemStatus → String
  | queued => "queued"
  | running => "running"
  | completed => "completed"
  | errored => "errored"
  | timedOut => "timed_out"
  | cancelled => "cancelled"

/-- Membership in `TERMINAL_ITEM_STATUSES`. -/
def terminal : ItemStatus → Bool
  | completed | errored | timedOut | cancelled => true
  | queued | running => false

/-- The statuses that count as errored in the progress queries. -/
def failed : ItemStatus → Bool
  | errored | timedOut | cancelled => true
  | queued | running | completed => false

@[simp] theorem terminal_queued : queued.terminal = false := rfl
@[simp] theorem terminal_running : running.terminal = false := rfl
@[simp] theorem terminal_completed : completed.terminal = true := rfl
@[simp] theorem terminal_errored : errored.terminal = true := rfl

end ItemStatus

/-- The run status `partial` is `partialRun` here. -/
inductive RunStatus
  | pending
  | running
  | completed
  | partialRun
  | failed
  deriving DecidableEq, Repr

structure AppVersion where
  id : String
  appId : String
  config : Json
  adapterModule : String

structure EvalSuite where
  id : String
  appId : String

structure EvalCase where
  id : String
  payload : Json

structure EvaluatorConfig where
  id : String
  config : Json

structure EvalRun where
  id : String
  organizationId : String
  appVersionId : String
  suiteId : String
  evaluatorConfigId : String
  status : RunStatus := .pending
  startedAt : Option Nat := none
  completedAt : Option Nat := none
  caseCount : Nat := 0
  caseCompleted : Nat := 0
  caseErrored : Nat := 0

structure EvalRunItem where
  id : String
  runId : String
  caseId : String
  status : ItemStatus := .queued
  attemptCount : Nat := 1
  workerTaskId : Option String := none
  leaseExpiresAt : Option Nat := none
  recordedLatencyMs : Option Int := none
  recordedCostUsd : Option Rat := none
  errorMessage : Option String := none
  startedAt : Option Nat := none
  completedAt : Option Nat := none
  latencyHeld : ∀ latency ∈ recordedLatencyMs, Column.HoldsInteger latency := by
    first | exact Column.holdsInteger_of_none | simp
  costHeld : ∀ cost ∈ recordedCostUsd, Column.IsNumeric cost := by
    first | exact Column.isNumeric_of_none | simp

/-- The item with the latency and the cost, unless a column refuses one of them. -/
def EvalRunItem.measure? (row : EvalRunItem) (latencyMs : Option Int) (costUsd : Option Rat) :
    Option EvalRunItem :=
  if held : (∀ latency ∈ latencyMs, Column.HoldsInteger latency) ∧
      ∀ cost ∈ costUsd, Column.HoldsNumeric cost then
    some { row with
      recordedLatencyMs := latencyMs
      recordedCostUsd := costUsd.map Column.numeric
      latencyHeld := held.1
      costHeld := by
        intro value member
        rcases Option.map_eq_some_iff.mp member with ⟨cost, isCost, rfl⟩
        exact Column.isNumeric_numeric (held.2 cost isCost) }
  else
    none

theorem EvalRunItem.measure?_some {row measured : EvalRunItem} {latencyMs : Option Int}
    {costUsd : Option Rat} (held : row.measure? latencyMs costUsd = some measured) :
    ((∀ latency ∈ latencyMs, Column.HoldsInteger latency) ∧
      ∀ cost ∈ costUsd, Column.HoldsNumeric cost) ∧
    ∃ latencyHeld costHeld, measured = { row with
      recordedLatencyMs := latencyMs
      recordedCostUsd := costUsd.map Column.numeric
      latencyHeld
      costHeld } := by
  unfold measure? at held
  split at held
  · next fits => exact ⟨fits, _, _, (Option.some.inj held).symm⟩
  · cases held

theorem EvalRunItem.measure?_isSome {row : EvalRunItem} {latencyMs : Option Int}
    {costUsd : Option Rat} (latency : ∀ latency ∈ latencyMs, Column.HoldsInteger latency)
    (cost : ∀ cost ∈ costUsd, Column.HoldsNumeric cost) :
    ∃ measured, row.measure? latencyMs costUsd = some measured :=
  ⟨_, dif_pos ⟨latency, cost⟩⟩

/-- `writtenBy` is no column: it remembers which delivery inserted the row. -/
structure Trace where
  payload : Json
  writtenBy : Nat

/-- An evaluator result as its columns keep it. -/
structure StoredResult extends EvaluationResult where
  nameHeld : Column.HoldsString 120 evaluatorName := by decide +kernel
  scoreHeld : ∀ value ∈ score, Column.IsNumeric value := by
    first | exact Column.isNumeric_of_none | simp
  errorHeld : ∀ text ∈ errorMessage, Column.HoldsText text := by
    first | exact Column.holdsText_of_none | simp

namespace EvaluationResult

variable (storesJson : Json → Bool) (result : EvaluationResult)

structure Storable : Prop where
  name : Column.HoldsString 120 result.evaluatorName
  score : ∀ value ∈ result.score, Column.HoldsNumeric value
  error : ∀ text ∈ result.errorMessage, Column.HoldsText text
  details : storesJson result.details = true

instance : Decidable (result.Storable storesJson) :=
  decidable_of_iff (Column.HoldsString 120 result.evaluatorName ∧
      (∀ value ∈ result.score, Column.HoldsNumeric value) ∧
      (∀ text ∈ result.errorMessage, Column.HoldsText text) ∧ storesJson result.details = true)
    ⟨fun ⟨name, score, error, details⟩ => ⟨name, score, error, details⟩,
      fun storable => ⟨storable.name, storable.score, storable.error, storable.details⟩⟩

def rounded : EvaluationResult :=
  { result with score := result.score.map Column.numeric }

/-- The row of the result, unless a column refuses a value. -/
def store? : Option StoredResult :=
  if storable : result.Storable storesJson then
    some {
      toEvaluationResult := result.rounded
      nameHeld := storable.name
      scoreHeld := by
        intro value member
        rcases Option.map_eq_some_iff.mp member with ⟨score, isScore, rfl⟩
        exact Column.isNumeric_numeric (storable.score score isScore)
      errorHeld := storable.error }
  else
    none

variable {storesJson result}

theorem store?_some {stored : StoredResult} (held : result.store? storesJson = some stored) :
    result.Storable storesJson ∧ stored.toEvaluationResult = result.rounded := by
  unfold store? at held
  split at held
  · next storable =>
    cases held
    exact ⟨storable, rfl⟩
  · cases held

theorem store?_isSome (storable : result.Storable storesJson) :
    ∃ stored, result.store? storesJson = some stored :=
  ⟨_, dif_pos storable⟩

theorem mapM_store?_some {results : List EvaluationResult} {stored : List StoredResult}
    (held : results.mapM (·.store? storesJson) = some stored) :
    (∀ result ∈ results, result.Storable storesJson) ∧
      stored.map (·.toEvaluationResult) = results.map (·.rounded) := by
  induction results generalizing stored with
  | nil =>
      cases held
      exact ⟨List.forall_mem_nil _, rfl⟩
  | cons result results induction =>
      rw [List.mapM_cons] at held
      rcases Option.bind_eq_some_iff.mp held with ⟨first, firstHeld, rest⟩
      rcases Option.bind_eq_some_iff.mp rest with ⟨others, othersHeld, same⟩
      cases same
      rcases store?_some firstHeld with ⟨storable, row⟩
      rcases induction othersHeld with ⟨allStorable, rows⟩
      exact ⟨List.forall_mem_cons.mpr ⟨storable, allStorable⟩,
        by rw [List.map_cons, List.map_cons, row, rows]⟩

theorem mapM_store?_isSome {results : List EvaluationResult}
    (storable : ∀ result ∈ results, result.Storable storesJson) :
    ∃ stored, results.mapM (·.store? storesJson) = some stored := by
  induction results with
  | nil => exact ⟨[], rfl⟩
  | cons result results induction =>
      rcases store?_isSome (storable result List.mem_cons_self) with ⟨first, firstHeld⟩
      rcases induction fun other member => storable other (List.mem_cons_of_mem _ member) with
        ⟨others, othersHeld⟩
      exact ⟨first :: others, by simp [List.mapM_cons, firstHeld, othersHeld]⟩

end EvaluationResult

structure EvalResult extends StoredResult where
  writtenBy : Nat

structure ItemRecord where
  row : EvalRunItem
  traces : List Trace := []
  results : List EvalResult := []

namespace ItemRecord

/-- `uq_eval_results_run_item_id_evaluator_name` and the unique
`traces.run_item_id` refuse these rows. -/
def conflicts (item : ItemRecord) (results : List EvaluationResult) : Bool :=
  !item.traces.isEmpty ||
    !decide (item.results.map (·.evaluatorName) ++ results.map (·.evaluatorName)).Nodup

def insertEvidence (item : ItemRecord) (payload : Json)
    (results : List StoredResult) (writtenBy : Nat) : ItemRecord :=
  { item with
    traces := item.traces ++ [{ payload, writtenBy }]
    results := item.results ++ results.map fun result =>
      { toStoredResult := result, writtenBy } }

/-- An item without evidence refuses only results that share a name. -/
theorem conflicts_of_empty {item : ItemRecord} (noTraces : item.traces = [])
    (noResults : item.results = []) (results : List EvaluationResult) :
    item.conflicts results = !decide (results.map (·.evaluatorName)).Nodup := by
  simp [conflicts, noTraces, noResults]

theorem conflicts_of_traces_ne_nil {item : ItemRecord} (traced : item.traces ≠ [])
    (results : List EvaluationResult) : item.conflicts results = true := by
  cases traces : item.traces with
  | nil => exact absurd traces traced
  | cons => simp [conflicts, traces]

theorem conflicts_rounded (item : ItemRecord) (results : List EvaluationResult) :
    item.conflicts (results.map (·.rounded)) = item.conflicts results := by
  simp [conflicts, EvaluationResult.rounded, Function.comp_def]

end ItemRecord

end EvalForge
