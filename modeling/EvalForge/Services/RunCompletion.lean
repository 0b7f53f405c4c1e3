import EvalForge.Services.RunDispatcher
import EvalForge.Workers.Chain

/-! # Completion of a run

With one chain of deliveries for each item, a run that has nothing left to do
has been completed by the callback, unless it was created without items: then
there is no chord, and nothing ever completes it.
-/

namespace EvalForge

open Foundation

/-- The run agrees with its items. -/
structure RunFinalised (run : EvalRun) (rows : List EvalRunItem) : Prop where
  status : run.status = .completed ∨ run.status = .partialRun
  completed_iff : run.status = .completed ↔ ∀ row ∈ rows, row.status ≠ .errored
  caseCompleted : run.caseCompleted = rows.countP fun row => row.status == .completed
  caseErrored : run.caseErrored = rows.countP fun row => row.status == .errored
  total : run.caseCompleted + run.caseErrored = run.caseCount

namespace RunSystem

def chained (system : RunSystem) : RunAction → Bool
  | .item index action => system.slots[index]?.all fun slot => slot.system.chained action
  | _ => true

/-- No case task and no callback remains to be executed. -/
def quiet (system : RunSystem) : Bool :=
  system.allReturned &&
    match system.callback with
    | .absent | .done => true
    | .waiting | .counted _ => false

def CallbackSound (system : RunSystem) : Prop :=
  match system.callback with
  | .absent => False
  | .waiting => True
  | .counted counts => system.allReturned = true ∧ counts = countItems system.rows
  | .done => system.allReturned = true ∧ RunFinalised system.run system.rows

end RunSystem

structure RunInvariant (env : Environment) (system : RunSystem) : Prop where
  nonempty : system.slots ≠ []
  count : system.run.caseCount = system.slots.length
  chains : ∀ slot ∈ system.slots, ChainInvariant env slot.task slot.taskId slot.system
  callback : system.CallbackSound

section Chains

variable {env : Environment} {task : CaseTask} {taskId : String}
variable {current next : ItemSystem} {action : ItemAction}

theorem ChainInvariant.terminal_of_returned (invariant : ChainInvariant env task taskId current)
    (returned : current.returned = true) : current.item.row.status.terminal = true := by
  rcases ItemSystem.returned_iff.mp returned with ⟨attempt, member, result, phase⟩
  have agrees := invariant.phases attempt member
  rw [phase] at agrees
  exact agrees

theorem ChainInvariant.tick_of_returned (invariant : ChainInvariant env task taskId current)
    (returned : current.returned = true)
    (stepped : itemStep env task current action = some next)
    (chained : current.chained action = true) :
    ∃ elapsed, action = .tick elapsed ∧ next = { current with now := current.now + elapsed } := by
  rcases ItemSystem.returned_iff.mp returned with ⟨last, member, result, phase⟩
  rcases List.mem_iff_getElem?.mp member with ⟨position, held⟩
  have lasts : last.phase.resumes = false := by rw [phase]; rfl
  cases itemStep_transition stepped with
  | tick elapsed => exact ⟨elapsed, rfl, rfl⟩
  | deliver index message published =>
      have getLast : current.deliveries.getLast? = some last := by
        rw [List.getLast?_eq_getElem?, ← invariant.last position last held lasts]
        exact held
      simp [ItemSystem.chained, getLast, lasts] at chained
  | attempt index attemptAction attempt attemptResult delivered transition =>
      have active := transition.active
      cases invariant.unique held delivered lasts (Phase.resumes_of_active active)
      cases held.symm.trans delivered
      rw [phase] at active
      cases active

end Chains

section Steps

variable {env : Environment} {system next : RunSystem} {action : RunAction}

theorem RunInvariant.terminal (invariant : RunInvariant env system)
    (returned : system.allReturned = true) :
    ∀ row ∈ system.rows, row.status.terminal = true := by
  intro row member
  rcases List.mem_map.mp member with ⟨slot, held, rfl⟩
  exact (invariant.chains slot held).terminal_of_returned
    (List.all_eq_true.mp returned slot held)

theorem RunInvariant.erroredCount (invariant : RunInvariant env system) :
    erroredCount system.rows = system.rows.countP fun row => row.status == .errored := by
  apply List.countP_congr
  intro row member
  rcases List.mem_map.mp member with ⟨slot, held, rfl⟩
  have known := (invariant.chains slot held).evidence.evidence.known
  cases status : slot.system.item.row.status <;> simp_all [ItemStatus.failed]

theorem RunInvariant.finalised (invariant : RunInvariant env system)
    (returned : system.allReturned = true) (completedAt : Nat) :
    RunFinalised (completeRun (countItems system.rows) completedAt system.run)
      system.rows := by
  have terminal := invariant.terminal returned
  have nonempty : system.rows ≠ [] := by simpa [RunSystem.rows] using invariant.nonempty
  have counted := completedCount_add_erroredCount terminal
  have length : system.rows.length = system.run.caseCount := by
    rw [invariant.count, RunSystem.rows, List.length_map]
  have noneErrored : EvalForge.erroredCount system.rows = 0 ↔
      ∀ row ∈ system.rows, row.status ≠ .errored := by
    rw [invariant.erroredCount, List.countP_eq_zero]
    simp
  have updated : completeRun (countItems system.rows) completedAt system.run =
      { system.run with
        status := if EvalForge.erroredCount system.rows = 0 then .completed else .partialRun
        caseCompleted := completedCount system.rows
        caseErrored := EvalForge.erroredCount system.rows
        completedAt := some completedAt } := by
    rw [completeRun, if_pos (countItems_complete nonempty terminal)]
    rfl
  rw [updated]
  constructor
  · by_cases empty : EvalForge.erroredCount system.rows = 0
    · exact .inl (if_pos empty)
    · exact .inr (if_neg empty)
  · refine Iff.trans ?_ noneErrored
    by_cases empty : EvalForge.erroredCount system.rows = 0
    · simp [empty]
    · simp [empty]
  · rfl
  · exact invariant.erroredCount
  · exact counted.trans length

theorem RunInvariant.updateSlot (invariant : RunInvariant env system) {index : Nat}
    {slot replacement : Slot} (held : system.slots[index]? = some slot)
    (chain : ChainInvariant env replacement.task replacement.taskId replacement.system)
    (row : replacement.system.item.row = slot.system.item.row)
    (returned : replacement.system.returned = slot.system.returned) :
    RunInvariant env (system.updateSlot index replacement) := by
  have rows : (system.updateSlot index replacement).rows = system.rows :=
    map_set_slot held row
  have allReturned : (system.updateSlot index replacement).allReturned = system.allReturned := by
    have flags : (system.slots.set index replacement).map (fun slot => slot.system.returned) =
        system.slots.map fun slot => slot.system.returned := map_set_slot held returned
    have all := congrArg (fun flags => flags.all id) flags
    rw [List.all_map, List.all_map] at all
    exact all
  refine ⟨?_, ?_, ?_, ?_⟩
  · simpa [RunSystem.updateSlot] using invariant.nonempty
  · simpa [RunSystem.updateSlot] using invariant.count
  · intro other member
    rcases List.mem_or_eq_of_mem_set member with member | rfl
    · exact invariant.chains other member
    · exact chain
  · have sound := invariant.callback
    unfold RunSystem.CallbackSound at sound ⊢
    rw [rows, allReturned]
    cases callback : system.callback with
    | absent =>
        rw [callback] at sound
        exact sound.elim
    | waiting =>
        simp [RunSystem.updateSlot, callback]
    | counted counts =>
        rw [callback] at sound
        simpa [RunSystem.updateSlot, callback] using sound
    | done =>
        rw [callback] at sound
        simp only [RunSystem.updateSlot, callback]
        exact sound

theorem RunInvariant.afterItem (invariant : RunInvariant env system) {index : Nat} {slot : Slot}
    {after : ItemSystem} {itemAction : ItemAction}
    (held : system.slots[index]? = some slot)
    (stepped : itemStep env slot.task slot.system itemAction = some after)
    (chained : slot.system.chained itemAction = true) :
    RunInvariant env (system.afterItem index slot after itemAction) := by
  have member := List.mem_of_getElem? held
  have before := invariant.chains slot member
  by_cases waiting : system.callback = .waiting
  · have transition := RunTransition.item index itemAction slot after held stepped
    refine ⟨?_, ?_, ?_, ?_⟩
    · simpa using invariant.nonempty
    · rw [transition.caseCount, transition.length]
      exact invariant.count
    · intro other member
      rw [afterItem_slots] at member
      rcases List.mem_or_eq_of_mem_set member with member | rfl
      · exact invariant.chains other member
      · exact before.step stepped chained
    · simp [RunSystem.CallbackSound, waiting]
  · -- The callback has seen every task return, so nothing is left but time.
    have returned : system.allReturned = true := by
      have sound := invariant.callback
      unfold RunSystem.CallbackSound at sound
      split at sound
      · exact sound.elim
      · contradiction
      · exact sound.1
      · exact sound.1
    have slotReturned := List.all_eq_true.mp returned slot member
    rcases before.tick_of_returned slotReturned stepped chained with ⟨elapsed, rfl, rfl⟩
    exact invariant.updateSlot held (before.step stepped chained) rfl rfl

theorem RunInvariant.step (invariant : RunInvariant env system)
    (stepped : runStep env system action = some next) (chained : system.chained action = true) :
    next.dispatch = .failed ∨ RunInvariant env next := by
  cases runStep_transition stepped with
  | publish index slot held submitting fresh =>
      have chain := invariant.chains slot (List.mem_of_getElem? held)
      exact .inr (invariant.updateSlot held chain.publish rfl rfl)
  | submitted submitting published =>
      exact .inr ⟨invariant.nonempty, invariant.count, invariant.chains, invariant.callback⟩
  | submissionFails completedAt submitting => exact .inl rfl
  | item index itemAction slot after held itemStepped =>
      refine .inr (invariant.afterItem held itemStepped ?_)
      simpa [RunSystem.chained, held] using chained
  | countItems waiting returned =>
      exact .inr ⟨invariant.nonempty, invariant.count, invariant.chains, returned, rfl⟩
  | completeRun completedAt counts counted =>
      have sound := invariant.callback
      rw [RunSystem.CallbackSound, counted] at sound
      rcases sound with ⟨returned, rfl⟩
      refine .inr ⟨invariant.nonempty, ?_, invariant.chains, returned, ?_⟩
      · exact (completeRun_caseCount _ _ _).trans invariant.count
      · exact invariant.finalised returned completedAt

end Steps

section Runs

variable {env : Environment} {inputs : DispatchInputs} {plan : RunPlan}
variable {organizationId : String} {actions : List RunAction} {final : RunSystem}

theorem RunInvariant.dispatched (nonempty : plan.cases ≠ []) :
    RunInvariant env (plan.dispatch inputs organizationId) := by
  have notEmpty : plan.cases.isEmpty = false := by simpa using nonempty
  refine ⟨?_, ?_, ?_, ?_⟩
  · intro empty
    have length := createSlots_length inputs plan (inputs.newUuid 0) 0 plan.cases
    rw [show createSlots inputs plan (inputs.newUuid 0) 0 plan.cases = [] from empty] at length
    exact nonempty (List.length_eq_zero_iff.mp length.symm)
  · simp [RunPlan.dispatch, RunPlan.newRun, createSlots_length]
  · intro slot member
    rw [mem_createSlots member]
    exact ChainInvariant.created env slot.task _ slot.taskId inputs.utcNow
  · simp [RunSystem.CallbackSound, RunPlan.dispatch, notEmpty]

theorem failed_step {system next : RunSystem} {action : RunAction}
    (stepped : runStep env system action = some next) (failed : system.dispatch = .failed) :
    next.dispatch = .failed := by
  cases runStep_transition stepped with
  | submitted submitting published => cases submitting.symm.trans failed
  | item index itemAction slot after held itemStepped => simpa using failed
  | submissionFails => rfl
  | _ => exact failed

/-- The invariant holds in every state of a run whose dispatch does not fail. -/
theorem RunInvariant.reached (nonempty : plan.cases ≠ [])
    (reached : Transitions (runStep env) (plan.dispatch inputs organizationId) actions final)
    (chained : Along (runStep env) (fun current action _ => current.chained action = true)
      (plan.dispatch inputs organizationId) actions) :
    final.dispatch = .failed ∨ RunInvariant env final := by
  refine Transitions.invariant (fun system => system.dispatch = .failed ∨ RunInvariant env system)
    ?_ reached (.inr (RunInvariant.dispatched nonempty)) chained
  intro current action next invariant stepped chained
  rcases invariant with failed | invariant
  · exact .inl (failed_step stepped failed)
  · exact invariant.step stepped chained

/-- A run with items that has nothing left to do is finalised. -/
theorem runFinalised_of_quiet (nonempty : plan.cases ≠ [])
    (reached : Transitions (runStep env) (plan.dispatch inputs organizationId) actions final)
    (chained : Along (runStep env) (fun current action _ => current.chained action = true)
      (plan.dispatch inputs organizationId) actions)
    (returned : final.dispatch = .returned) (quiet : final.quiet = true) :
    RunInvariant env final ∧ final.allReturned = true ∧ RunFinalised final.run final.rows := by
  rcases RunInvariant.reached nonempty reached chained with failed | invariant
  · cases returned.symm.trans failed
  · have sound := invariant.callback
    simp only [RunSystem.quiet, Bool.and_eq_true] at quiet
    rcases quiet with ⟨allReturned, callbackDone⟩
    refine ⟨invariant, allReturned, ?_⟩
    unfold RunSystem.CallbackSound at sound
    split at sound
    · exact sound.elim
    · next waiting => simp [waiting] at callbackDone
    · next counted => simp [counted] at callbackDone
    · exact sound.2

end Runs

/-! ## No run is left running -/

/-- Every run that is dispatched and has nothing left to do agrees with its
items, for exactly the requests that do not select an empty list of cases. -/
theorem quiet_run_finalised_iff (env : Environment) (inputs : DispatchInputs)
    (request : RunRequest) (initial : RunSystem)
    (dispatched : dispatchRun inputs request = .ok initial) :
    (∀ actions final, Transitions (runStep env) initial actions final →
        Along (runStep env) (fun current action _ => current.chained action = true)
          initial actions →
        final.dispatch = .returned → final.quiet = true → RunFinalised final.run final.rows) ↔
      request.caseIds ≠ some [] := by
  rcases dispatchRun_ok dispatched with ⟨plan, checked, rfl⟩
  constructor
  · intro finalised selected
    have empty : plan.cases = [] := (RunRequest.check_cases checked).mpr selected
    have unfinished := finalised [] _ (.nil _) trivial
      (by simp [RunPlan.dispatch, empty])
      (by simp [RunSystem.quiet, RunSystem.allReturned, RunPlan.dispatch, empty, createSlots])
    rcases unfinished.status with status | status <;> cases status
  · intro selected actions final reached chained returned quiet
    have nonempty : plan.cases ≠ [] := fun empty =>
      selected ((RunRequest.check_cases checked).mp empty)
    exact (runFinalised_of_quiet nonempty reached chained returned quiet).2.2

theorem quiet_run_finalised_iff_scenario :
    (∀ actions final, Transitions (runStep Scenario.environment)
          (Scenario.plan.dispatch Scenario.dispatchInputs "org-1") actions final →
        Along (runStep Scenario.environment)
          (fun current action _ => current.chained action = true)
          (Scenario.plan.dispatch Scenario.dispatchInputs "org-1") actions →
        final.dispatch = .returned → final.quiet = true → RunFinalised final.run final.rows) ↔
      Scenario.request.caseIds ≠ some [] :=
  quiet_run_finalised_iff Scenario.environment Scenario.dispatchInputs Scenario.request _ rfl

/-- The empty selection is accepted, and its run stays `running`. -/
theorem empty_selection_stays_running :
    ¬∀ (env : Environment) (inputs : DispatchInputs) (request : RunRequest)
      (initial : RunSystem), dispatchRun inputs request = .ok initial →
      ∀ actions final, Transitions (runStep env) initial actions final →
        Along (runStep env) (fun current action _ => current.chained action = true)
          initial actions →
        final.dispatch = .returned → final.quiet = true → RunFinalised final.run final.rows := by
  intro finalised
  have unfinished := finalised Scenario.environment Scenario.dispatchInputs
    { Scenario.request with caseIds := some [] }
    ({ Scenario.plan with cases := [] }.dispatch Scenario.dispatchInputs "org-1") rfl
    [] _ (.nil _) trivial rfl rfl
  rcases unfinished.status with status | status <;> cases status

end EvalForge
