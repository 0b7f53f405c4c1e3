import EvalForge.Workers.Evidence

/-! # Terminal items under duplicate delivery

Exactly which steps break the two promises about a terminal item: that it is
final, and that a completed item carries the full evidence of one attempt.
-/

namespace EvalForge

open Foundation

def ItemRecord.outcome (item : ItemRecord) :
    ItemStatus × Option Int × Option Rat × List Trace × List EvalResult :=
  (item.row.status, item.row.recordedLatencyMs, item.row.recordedCostUsd, item.traces,
    item.results)

def TerminalKept (current : ItemSystem) (_ : ItemAction) (next : ItemSystem) : Prop :=
  current.item.row.status.terminal = true → next.item.outcome = current.item.outcome

/-- A completed item has one trace and one result for each evaluator
specification, all by one delivery; any other item has neither. -/
structure FullyEvidenced (env : Environment) (task : CaseTask) (item : ItemRecord) : Prop where
  completed : item.row.status = .completed →
    ∃ delivery config specs, task.evaluatorConfig = some config ∧
      (config.config.get "evaluators" (.list [])).iterate = .ok specs ∧
      item.traces.map (·.writtenBy) = [delivery] ∧
      item.results.map (·.evaluatorName) = specs.map env.resultName ∧
      (item.results.map (·.evaluatorName)).Nodup ∧
      ∀ result ∈ item.results, result.writtenBy = delivery
  other : item.row.status ≠ .completed → item.traces = [] ∧ item.results = []

namespace ItemSystem

/-- The stale-data deletion or the error commit of a delivery meets an item
that another delivery has completed. -/
def erasesCompleted (system : ItemSystem) : ItemAction → Prop
  | .attempt _ action => action.erases = true ∧ system.item.row.status = .completed
  | _ => False

/-- The success commit of a delivery meets a terminal item, and no unique
constraint and no column refuses it. -/
def replacesTerminal (env : Environment) (system : ItemSystem) : ItemAction → Prop
  | .attempt index (.commitSuccess _) =>
      system.item.row.status.terminal = true ∧
        ∃ attempt inputs output results completedAt,
          system.deliveries[index]? = some attempt ∧
          attempt.phase = .evaluated inputs output results completedAt ∧
          SuccessHeld env.storesJson system.item inputs output results
  | _ => False

end ItemSystem

structure SystemEvidence (env : Environment) (task : CaseTask) (system : ItemSystem) : Prop where
  evidence : Evidence env task system.item
  sound : ∀ attempt ∈ system.deliveries, PhaseSound env task attempt.phase

section Invariant

variable {env : Environment} {task : CaseTask} {current next : ItemSystem}
variable {action : ItemAction}

theorem SystemEvidence.created (env : Environment) (task : CaseTask)
    (runId : String) (now : Nat) : SystemEvidence env task (.created task runId now) := by
  constructor
  · exact ⟨by simp [ItemSystem.created], by simp [ItemSystem.created],
      by simp [ItemSystem.created]⟩
  · simp [ItemSystem.created]

theorem SystemEvidence.publish (invariant : SystemEvidence env task current) (taskId : String) :
    SystemEvidence env task (current.publish taskId) :=
  ⟨invariant.evidence, invariant.sound⟩

theorem SystemEvidence.dispatched (env : Environment) (task : CaseTask)
    (runId taskId : String) (now : Nat) :
    SystemEvidence env task (.dispatched task runId taskId now) :=
  (SystemEvidence.created env task runId now).publish taskId

theorem SystemEvidence.step (invariant : SystemEvidence env task current)
    (stepped : itemStep env task current action = some next)
    (kept : ¬current.erasesCompleted action) : SystemEvidence env task next := by
  cases itemStep_transition stepped with
  | tick => exact ⟨invariant.evidence, invariant.sound⟩
  | deliver index message _ =>
      refine ⟨invariant.evidence, ?_⟩
      intro attempt member
      rcases List.mem_append.mp member with member | member
      · exact invariant.sound attempt member
      · cases List.mem_singleton.mp member
        trivial
  | attempt index action attempt result delivered transition =>
      have sound := invariant.sound attempt (List.mem_of_getElem? delivered)
      constructor
      · apply transition.evidence sound invariant.evidence
        exact fun erases completed => kept ⟨erases, completed⟩
      · intro other member
        rcases mem_afterAttempt member with member | rfl
        · exact invariant.sound other member
        · exact transition.phaseSound sound

theorem Evidence.fullyEvidenced {item : ItemRecord} (evidence : Evidence env task item) :
    FullyEvidenced env task item := by
  constructor
  · intro completed
    rcases evidence.completed completed with ⟨delivery, inputs, output, results, recorded⟩
    rcases Environment.evaluateCase_names recorded.evaluated with ⟨specs, iterated, names⟩
    have stored : item.results.map (·.evaluatorName) = results.map (·.evaluatorName) := by
      have rows := congrArg (List.map (·.evaluatorName)) recorded.rows
      rw [List.map_map, List.map_map] at rows
      exact rows
    have config : task.evaluatorConfig = some inputs.evaluatorConfig := by
      have loaded := recorded.loaded
      unfold CaseTask.loadEntities at loaded
      split at loaded <;> cases loaded
      assumption
    refine ⟨delivery, inputs.evaluatorConfig, specs, config, iterated, ?_, ?_, ?_, ?_⟩
    · simp [recorded.trace]
    · rw [stored, names]
    · rw [stored]
      exact recorded.nodup
    · exact recorded.writtenBy
  · intro notCompleted
    exact ⟨(evidence.empty notCompleted).1, (evidence.empty notCompleted).2.1⟩

/-- Evidence that is erased is missed: a step keeps the evidence complete
exactly if it does not erase that of a completed item. -/
theorem fullyEvidenced_step_iff (invariant : SystemEvidence env task current)
    (stepped : itemStep env task current action = some next) :
    ¬current.erasesCompleted action ↔ FullyEvidenced env task next.item := by
  constructor
  · intro kept
    exact (invariant.step stepped kept).evidence.fullyEvidenced
  · intro evidenced erases
    cases itemStep_transition stepped with
    | tick => exact erases
    | deliver => exact erases
    | attempt index action attempt result delivered transition =>
        rcases erases with ⟨erases, completed⟩
        have traced := invariant.evidence.traces_ne_nil completed
        cases transition with
        | clear inputs phase =>
            rcases evidenced.completed completed with ⟨_, _, _, _, _, traces, _⟩
            cases traces
        | record exc loaded completedAt phase =>
            exact traced (evidenced.other (by simp [ItemSystem.afterAttempt, Attempt.enter,
              commitError])).1
        | _ => cases erases

theorem ItemSystem.commits_of_replacesTerminal {index : Nat} {attempt : Attempt}
    {attemptAction : AttemptAction} {result : AttemptResult}
    (delivered : current.deliveries[index]? = some attempt)
    (transition : AttemptTransition env task current.now current.item attempt attemptAction result)
    (replaces : current.replacesTerminal env (.attempt index attemptAction)) :
    current.item.row.status.terminal = true ∧
      ∃ inputs output results completedAt,
        SuccessHeld env.storesJson current.item inputs output results ∧
        SuccessCommitted current.item inputs output results completedAt attempt.delivery
          result.item := by
  cases transition with
  | commit inputs output results completedAt _ committed phase stored =>
      exact ⟨replaces.1, inputs, output, results, completedAt, commitSuccess_some stored⟩
  | conflict inputs output results completedAt _ phase refused =>
      rcases replaces.2 with ⟨other, _, _, otherResults, _, otherDelivered, otherPhase, held⟩
      cases delivered.symm.trans otherDelivered
      cases phase.symm.trans otherPhase
      rcases held.commits completedAt attempt.delivery with ⟨committed, stored⟩
      rw [refused] at stored
      cases stored
  | _ => exact replaces.elim

theorem terminalKept_of_kept (invariant : SystemEvidence env task current)
    (stepped : itemStep env task current action = some next)
    (kept : ¬current.erasesCompleted action) (notReplaced : ¬current.replacesTerminal env action) :
    TerminalKept current action next := by
  intro terminal
  cases itemStep_transition stepped with
  | tick => rfl
  | deliver => rfl
  | attempt index action attempt result delivered transition =>
      cases transition with
      | claim row phase claims =>
          have live := claimable_not_terminal (claimRunItem_some claims).1
          rw [terminal] at live
          cases live
      | clear inputs phase =>
          have notCompleted : current.item.row.status ≠ .completed :=
            fun completed => kept ⟨rfl, completed⟩
          have empty := invariant.evidence.empty notCompleted
          simp [ItemRecord.outcome, ItemSystem.afterAttempt, Attempt.enter, clearStaleData,
            empty.1, empty.2.1]
      | record exc loaded completedAt phase =>
          have notCompleted : current.item.row.status ≠ .completed :=
            fun completed => kept ⟨rfl, completed⟩
          have errored : current.item.row.status = .errored := by
            have known := invariant.evidence.known
            cases status : current.item.row.status <;> simp_all
          simp [ItemRecord.outcome, ItemSystem.afterAttempt, Attempt.enter, commitError,
            errored]
      | commit inputs output results completedAt _ committed phase stored =>
          exact absurd ⟨terminal, attempt, inputs, output, results, completedAt, delivered,
            phase, (commitSuccess_some stored).1⟩ notReplaced
      | _ => rfl

theorem not_erasesCompleted_of_terminalKept (invariant : SystemEvidence env task current)
    (stepped : itemStep env task current action = some next)
    (terminalKept : TerminalKept current action next) : ¬current.erasesCompleted action := by
  intro erases
  cases itemStep_transition stepped with
  | tick => exact erases
  | deliver => exact erases
  | attempt index action attempt result delivered transition =>
      rcases erases with ⟨erases, completed⟩
      have traced := invariant.evidence.traces_ne_nil completed
      have outcome := terminalKept (by simp [completed])
      cases transition with
      | clear inputs phase =>
          have traces := congrArg (fun outcome => outcome.2.2.2.1) outcome
          exact traced traces.symm
      | record exc loaded completedAt phase =>
          have status := congrArg Prod.fst outcome
          simp [ItemRecord.outcome, ItemSystem.afterAttempt, Attempt.enter, commitError,
            completed] at status
      | _ => cases erases

theorem not_replacesTerminal_of_terminalKept (invariant : SystemEvidence env task current)
    (stepped : itemStep env task current action = some next)
    (terminalKept : TerminalKept current action next) : ¬current.replacesTerminal env action := by
  intro replaces
  cases itemStep_transition stepped with
  | tick => exact replaces
  | deliver => exact replaces
  | attempt index action attempt result delivered transition =>
      rcases ItemSystem.commits_of_replacesTerminal delivered transition replaces with
        ⟨terminal, inputs, output, results, completedAt, held, committed⟩
      have status := congrArg Prod.fst (terminalKept terminal)
      have completed : current.item.row.status = .completed := by
        simpa [ItemSystem.afterAttempt, ItemRecord.outcome, committed.completed] using status.symm
      have traced := invariant.evidence.traces_ne_nil completed
      have free := held.free
      rw [ItemRecord.conflicts_of_traces_ne_nil traced] at free
      cases free

/-- A step keeps a terminal item exactly if it is none of the late writes. -/
theorem terminalKept_step_iff (invariant : SystemEvidence env task current)
    (stepped : itemStep env task current action = some next) :
    (¬current.erasesCompleted action ∧ ¬current.replacesTerminal env action) ↔
      TerminalKept current action next := by
  constructor
  · rintro ⟨kept, notReplaced⟩
    exact terminalKept_of_kept invariant stepped kept notReplaced
  · intro terminalKept
    exact ⟨not_erasesCompleted_of_terminalKept invariant stepped terminalKept,
      not_replacesTerminal_of_terminalKept invariant stepped terminalKept⟩

end Invariant

/-! ## Terminal items are final -/

/-- Terminal items stay as they are in exactly the runs without a late write:
no stale-data deletion and no error commit on an item that is completed, and
no success commit that goes through on an item that is terminal. -/
theorem terminal_items_final_iff (env : Environment) (task : CaseTask)
    (runId taskId : String) (now : Nat) (actions : List ItemAction) :
    Along (itemStep env task) TerminalKept (.dispatched task runId taskId now) actions ↔
      Along (itemStep env task)
        (fun current action _ =>
          ¬current.erasesCompleted action ∧ ¬current.replacesTerminal env action)
        (.dispatched task runId taskId now) actions := by
  symm
  apply along_iff_of_invariant (SystemEvidence env task)
  · intro current action next invariant stepped kept
    exact invariant.step stepped kept.1
  · intro current action next invariant stepped
    exact terminalKept_step_iff invariant stepped
  · exact SystemEvidence.dispatched env task runId taskId now

namespace Scenario

/-- The first delivery has called its adapter; a redelivery of the same message
claims the item under the same task id, fails and records the error. -/
def erroredMeanwhile : List ItemAction :=
  untilReady 0 0 ++ [.attempt 0 (.callAdapter (.ok output))] ++ untilReady 0 1 ++
    [.attempt 1 (.callAdapter (.error ⟨"model not found"⟩)), .attempt 1 .handleException,
      .attempt 1 .commitError]

end Scenario

/-- The first delivery's success commit then turns the errored item into a
completed one. -/
theorem terminal_item_rewritten :
    ¬∀ (env : Environment) (task : CaseTask) (runId taskId : String) (now : Nat)
      (actions : List ItemAction),
      Along (itemStep env task) TerminalKept (.dispatched task runId taskId now) actions := by
  intro final
  have along := final Scenario.environment Scenario.task "run-1" "task-1" 0
    (Scenario.erroredMeanwhile ++ [.attempt 0 (.commitSuccess ⟨""⟩)])
  have before : (Scenario.execute Scenario.erroredMeanwhile).map (·.item.row.status) =
      some .errored := by rfl
  have after : (Scenario.execute (Scenario.erroredMeanwhile ++
      [.attempt 0 (.commitSuccess ⟨""⟩)])).map (·.item.row.status) = some .completed := by
    decide +kernel
  rcases Option.map_eq_some_iff.mp after with ⟨next, reached, completed⟩
  rcases along.last reached with ⟨middle, start, kept⟩
  rw [show Scenario.execute Scenario.erroredMeanwhile = some middle from start] at before
  have errored : middle.item.row.status = .errored := Option.some.inj before
  have same := congrArg Prod.fst (kept (by simp [errored]))
  simp [ItemRecord.outcome, errored, completed] at same

/-! ## Completed items are fully evidenced -/

/-- Completed items have their evidence, and no other item has any, in every
state of exactly the runs in which no stale-data deletion and no error commit
meets a completed item. -/
theorem completed_items_evidenced_iff (env : Environment) (task : CaseTask)
    (runId taskId : String) (now : Nat) (actions : List ItemAction) :
    Along (itemStep env task)
        (fun current _ next =>
          FullyEvidenced env task current.item ∧ FullyEvidenced env task next.item)
        (.dispatched task runId taskId now) actions ↔
      Along (itemStep env task) (fun current action _ => ¬current.erasesCompleted action)
        (.dispatched task runId taskId now) actions := by
  symm
  apply along_iff_of_invariant (SystemEvidence env task)
  · intro current action next invariant stepped kept
    exact invariant.step stepped kept
  · intro current action next invariant stepped
    rw [fullyEvidenced_step_iff invariant stepped]
    exact (and_iff_right invariant.evidence.fullyEvidenced).symm
  · exact SystemEvidence.dispatched env task runId taskId now

namespace Scenario

/-- The first delivery fails with a transient error and publishes a retry; a
redelivery and the retry both claim the item, and the redelivery completes it. -/
def completedMeanwhile : List ItemAction :=
  untilReady 0 0 ++
    [.attempt 0 (.callAdapter (.error ⟨"Connection refused"⟩)), .attempt 0 .handleException] ++
    untilReady 0 1 ++ [.attempt 1 (.callAdapter (.ok output))] ++ untilReady 1 2 ++
    [.attempt 1 (.commitSuccess ⟨""⟩)]

end Scenario

/-- The retry then deletes the trace and the results of the completed item. -/
theorem completed_item_loses_evidence :
    ¬∀ (env : Environment) (task : CaseTask) (runId taskId : String) (now : Nat)
      (actions : List ItemAction),
      Along (itemStep env task)
        (fun current _ next =>
          FullyEvidenced env task current.item ∧ FullyEvidenced env task next.item)
        (.dispatched task runId taskId now) actions := by
  intro evidenced
  have along := evidenced Scenario.environment Scenario.task "run-1" "task-1" 0
    (Scenario.completedMeanwhile ++ [.attempt 2 .clearStaleData])
  have after : (Scenario.execute (Scenario.completedMeanwhile ++
      [.attempt 2 .clearStaleData])).map (fun system => (system.item.row.status, system.item.traces)) =
      some (.completed, []) := by
    with_unfolding_all rfl
  rcases Option.map_eq_some_iff.mp after with ⟨next, reached, erased⟩
  rcases along.last reached with ⟨_, _, _, nextEvidenced⟩
  rcases nextEvidenced.completed (congrArg Prod.fst erased) with ⟨_, _, _, _, _, traces, _⟩
  rw [show next.item.traces = [] from congrArg Prod.snd erased] at traces
  cases traces

end EvalForge
