import EvalForge.Services.RunDispatcher
import EvalForge.Workers.Finality

/-! # A failed dispatch

The failure handler of `dispatch_run` and the workers that already received
their messages overwrite each other's rows. Three crossings undo the failure,
and no other step does.
-/

namespace EvalForge

open Foundation

structure ItemRecord.Abandoned (item : ItemRecord) : Prop where
  errored : item.row.status = .errored
  traces : item.traces = []
  results : item.results = []

structure DispatchFailed (system : RunSystem) : Prop where
  status : system.run.status = .failed
  counted : system.run.caseErrored = system.run.caseCount
  items : ∀ slot ∈ system.slots, slot.system.item.Abandoned

def FailureFinal (_ : RunSystem) (_ : RunAction) (next : RunSystem) : Prop :=
  next.dispatch = .failed → DispatchFailed next

/-- The submission fails after an item obtained evidence, or after the failure
a success commit goes through or the callback completes the run. -/
def RunSystem.crossesFailure (env : Environment) (system : RunSystem) : RunAction → Prop
  | .submissionFails _ =>
      ∃ slot ∈ system.slots, slot.system.item.traces ≠ [] ∨ slot.system.item.results ≠ []
  | .item index action =>
      system.dispatch = .failed ∧
        ∃ slot, system.slots[index]? = some slot ∧ slot.system.replacesTerminal env action
  | .completeRun _ =>
      system.dispatch = .failed ∧
        ∃ counts, system.callback = .counted counts ∧ counts.complete = true
  | _ => False

structure FailureInvariant (system : RunSystem) : Prop where
  count : system.run.caseCount = system.slots.length
  failed : system.dispatch = .failed → DispatchFailed system

section Steps

variable {env : Environment} {task : CaseTask} {system next : RunSystem}
variable {action : RunAction}

theorem abandoned_step_iff {current after : ItemSystem} {itemAction : ItemAction}
    (abandoned : current.item.Abandoned)
    (stepped : itemStep env task current itemAction = some after) :
    after.item.Abandoned ↔ ¬current.replacesTerminal env itemAction := by
  have terminal : current.item.row.status.terminal = true := by simp [abandoned.errored]
  constructor
  · intro still replaces
    cases itemStep_transition stepped with
    | tick => exact replaces
    | deliver => exact replaces
    | attempt index attemptAction attempt result delivered transition =>
        rcases ItemSystem.commits_of_replacesTerminal delivered transition replaces with
          ⟨_, inputs, output, results, completedAt, _, committed⟩
        have errored := still.errored
        rw [ItemSystem.afterAttempt, committed.completed] at errored
        cases errored
  · intro kept
    cases itemStep_transition stepped with
    | tick => exact abandoned
    | deliver => exact abandoned
    | attempt index attemptAction attempt result delivered transition =>
        cases transition with
        | claim row phase claims =>
            have live := claimable_not_terminal (claimRunItem_some claims).1
            rw [terminal] at live
            cases live
        | clear inputs phase => exact ⟨abandoned.errored, rfl, rfl⟩
        | record exc loaded completedAt phase =>
            exact ⟨rfl, abandoned.traces, abandoned.results⟩
        | commit inputs output results completedAt _ committed phase stored =>
            exact absurd ⟨terminal, attempt, inputs, output, results, completedAt, delivered,
              phase, (commitSuccess_some stored).1⟩ kept
        | _ => exact abandoned

theorem DispatchFailed.afterItem {index : Nat} {slot : Slot} {after : ItemSystem}
    {itemAction : ItemAction} (failed : DispatchFailed system)
    (count : system.run.caseCount = system.slots.length) (abandoned : after.item.Abandoned) :
    DispatchFailed (system.afterItem index slot after itemAction) := by
  have items : ∀ other ∈ (system.afterItem index slot after itemAction).slots,
      other.system.item.Abandoned := by
    intro other member
    rw [afterItem_slots] at member
    rcases List.mem_or_eq_of_mem_set member with member | rfl
    · exact failed.items other member
    · exact abandoned
  cases refreshes : itemAction.refreshes with
  | false =>
      have run : (system.afterItem index slot after itemAction).run = system.run :=
        afterItem_run_of_not_refreshes after refreshes
      exact ⟨run ▸ failed.status, run ▸ failed.counted, items⟩
  | true =>
      have run : (system.afterItem index slot after itemAction).run =
          refreshRunProgress (system.afterItem index slot after itemAction).rows system.run :=
        afterItem_run_of_refreshes after refreshes
      refine ⟨by rw [run]; exact failed.status, ?_, items⟩
      have errored : ∀ row ∈ (system.afterItem index slot after itemAction).rows,
          row.status = .errored := by
        intro row member
        rcases List.mem_map.mp member with ⟨other, held, rfl⟩
        exact (items other held).errored
      calc (system.afterItem index slot after itemAction).run.caseErrored
          = erroredCount (system.afterItem index slot after itemAction).rows := by
            rw [run, refreshRunProgress]
        _ = (system.afterItem index slot after itemAction).rows.length :=
            erroredCount_eq_length errored
        _ = system.slots.length := by simp [RunSystem.rows]
        _ = (system.afterItem index slot after itemAction).run.caseCount := by
            rw [run, refreshRunProgress, count]

theorem FailureInvariant.not_crossesFailure (invariant : FailureInvariant system)
    (stepped : runStep env system action = some next)
    (final : FailureFinal system action next) : ¬system.crossesFailure env action := by
  intro crosses
  cases runStep_transition stepped with
  | submissionFails completedAt submitting =>
      rcases crosses with ⟨slot, held, evidence⟩
      have abandoned := (final rfl).items _ (List.mem_map_of_mem held)
      rcases evidence with traced | recorded
      · exact traced abandoned.traces
      · exact recorded abandoned.results
  | item index itemAction slot after held itemStepped =>
      rcases crosses with ⟨failed, other, otherHeld, replaces⟩
      cases held.symm.trans otherHeld
      have bound := (List.getElem?_eq_some_iff.mp held).1
      have before := (invariant.failed failed).items slot (List.mem_of_getElem? held)
      have still := (final (by simpa using failed)).items { slot with system := after }
        (by rw [afterItem_slots]; exact List.mem_set bound _)
      exact (abandoned_step_iff before itemStepped).mp still replaces
  | completeRun completedAt counts counted =>
      rcases crosses with ⟨failed, others, otherCounted, complete⟩
      cases counted.symm.trans otherCounted
      have status := (final failed).status
      simp only [completeRun, complete, if_true] at status
      split at status <;> cases status
  | _ => exact crosses

theorem FailureInvariant.final (invariant : FailureInvariant system)
    (stepped : runStep env system action = some next)
    (kept : ¬system.crossesFailure env action) : FailureFinal system action next := by
  intro failed
  cases runStep_transition stepped with
  | publish index slot held submitting fresh =>
      cases submitting.symm.trans failed
  | submitted submitting published => cases failed
  | submissionFails completedAt submitting =>
      refine ⟨rfl, ?_, ?_⟩
      · exact invariant.count.symm
      · intro slot member
        rcases List.mem_map.mp member with ⟨before, held, rfl⟩
        refine ⟨rfl, ?_, ?_⟩
        · by_contra traced
          exact kept ⟨before, held, .inl traced⟩
        · by_contra recorded
          exact kept ⟨before, held, .inr recorded⟩
  | item index itemAction slot after held itemStepped =>
      have already : system.dispatch = .failed := by simpa using failed
      have before := (invariant.failed already).items slot (List.mem_of_getElem? held)
      have abandoned := (abandoned_step_iff before itemStepped).mpr fun replaces =>
        kept ⟨already, slot, held, replaces⟩
      exact (invariant.failed already).afterItem invariant.count abandoned
  | countItems waiting returned =>
      have before := invariant.failed failed
      exact ⟨before.status, before.counted, before.items⟩
  | completeRun completedAt counts counted =>
      have before := invariant.failed failed
      have incomplete : counts.complete = false := by
        by_contra complete
        exact kept ⟨failed, counts, counted, by simpa using complete⟩
      have same : completeRun counts completedAt system.run = system.run := by
        simp [completeRun, incomplete]
      refine ⟨?_, ?_, before.items⟩
      · rw [same]
        exact before.status
      · rw [same]
        exact before.counted

theorem FailureInvariant.step_iff (invariant : FailureInvariant system)
    (stepped : runStep env system action = some next) :
    FailureFinal system action next ↔ ¬system.crossesFailure env action :=
  ⟨invariant.not_crossesFailure stepped, invariant.final stepped⟩

theorem FailureInvariant.step (invariant : FailureInvariant system)
    (stepped : runStep env system action = some next)
    (final : FailureFinal system action next) : FailureInvariant next := by
  have transition := runStep_transition stepped
  exact ⟨by rw [transition.caseCount, transition.length]; exact invariant.count, final⟩

theorem FailureInvariant.dispatched {inputs : DispatchInputs} {request : RunRequest}
    (dispatched : dispatchRun inputs request = .ok system) : FailureInvariant system := by
  rcases dispatchRun_ok dispatched with ⟨plan, _, rfl⟩
  refine ⟨?_, ?_⟩
  · simp [RunPlan.dispatch, RunPlan.newRun, createSlots_length]
  · intro failed
    simp only [RunPlan.dispatch] at failed
    split at failed <;> cases failed

end Steps

/-! ## Failure is final -/

/-- A failed dispatch is final in exactly the runs without a crossing. -/
theorem dispatch_failure_final_iff (env : Environment) (inputs : DispatchInputs)
    (request : RunRequest) (initial : RunSystem)
    (dispatched : dispatchRun inputs request = .ok initial) (actions : List RunAction) :
    Along (runStep env) FailureFinal initial actions ↔
      Along (runStep env) (fun current action _ => ¬current.crossesFailure env action)
        initial actions := by
  apply along_iff_of_invariant FailureInvariant
  · intro current action next invariant stepped final
    exact invariant.step stepped final
  · intro current action next invariant stepped
    exact invariant.step_iff stepped
  · exact FailureInvariant.dispatched dispatched

namespace Scenario

/-- The first header task is published and executed before the submission of
the second one fails. -/
def publishedFirst : List RunAction :=
  .publish 0 :: executeItem 0

end Scenario

theorem dispatch_failure_final_iff_scenario :
    Along (runStep Scenario.environment) FailureFinal
        (Scenario.plan.dispatch Scenario.dispatchInputs "org-1") Scenario.publishedFirst ↔
      Along (runStep Scenario.environment)
        (fun current action _ => ¬current.crossesFailure Scenario.environment action)
        (Scenario.plan.dispatch Scenario.dispatchInputs "org-1") Scenario.publishedFirst :=
  dispatch_failure_final_iff Scenario.environment Scenario.dispatchInputs Scenario.request _ rfl
    Scenario.publishedFirst

/-- The failed run then keeps the trace of the item that was executed. -/
theorem failed_dispatch_keeps_trace :
    ¬∀ (env : Environment) (inputs : DispatchInputs) (request : RunRequest)
      (initial : RunSystem), dispatchRun inputs request = .ok initial →
      ∀ actions : List RunAction, Along (runStep env) FailureFinal initial actions := by
  intro final
  have along := final Scenario.environment Scenario.dispatchInputs Scenario.request
    (Scenario.plan.dispatch Scenario.dispatchInputs "org-1") rfl
    (Scenario.publishedFirst ++ [.submissionFails 1])
  have after : (run (runStep Scenario.environment)
      (Scenario.plan.dispatch Scenario.dispatchInputs "org-1")
      (Scenario.publishedFirst ++ [.submissionFails 1])).map
      (fun system => (system.dispatch,
        system.slots.map fun slot => slot.system.item.traces.length)) =
      some (.failed, [1, 0]) := by decide +kernel
  rcases Option.map_eq_some_iff.mp after with ⟨next, reached, failed⟩
  rcases along.last reached with ⟨_, _, finalNext⟩
  have items := (finalNext (congrArg Prod.fst failed)).items
  have traced : 1 ∈ next.slots.map fun slot => slot.system.item.traces.length := by
    have traces : next.slots.map (fun slot => slot.system.item.traces.length) = [1, 0] :=
      congrArg Prod.snd failed
    rw [traces]
    exact List.mem_cons_self
  rcases List.mem_map.mp traced with ⟨slot, held, length⟩
  rw [(items slot held).traces] at length
  cases length

end EvalForge
