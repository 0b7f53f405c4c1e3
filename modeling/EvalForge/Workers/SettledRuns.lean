import EvalForge.Workers.DispatchedRuns

/-! # What a settled run keeps

A run is completed or partial only when all its items are terminal. What a
comparison reads of them stays as it is from then on, unless a late write of a
delivery meets a terminal item.
-/

namespace EvalForge

open Foundation

/-! ## Counting -/

theorem completedCount_add_erroredCount_eq (items : List EvalRunItem) :
    completedCount items + erroredCount items = items.countP (·.status.terminal) := by
  induction items with
  | nil => rfl
  | cons item items induction =>
      rw [completedCount_cons, erroredCount_cons, List.countP_cons, ← induction]
      cases status : item.status <;>
        simp [ItemStatus.terminal, ItemStatus.failed] <;> omega

theorem terminal_of_complete {items : List EvalRunItem}
    (complete : (countItems items).complete = true) :
    ∀ item ∈ items, item.status.terminal = true := by
  have counted := completedCount_add_erroredCount_eq items
  simp only [ItemCounts.complete, countItems, Bool.and_eq_true] at complete
  refine List.countP_eq_length.mp (Nat.le_antisymm List.countP_le_length ?_)
  rw [← counted]
  exact of_decide_eq_true complete.2

/-! ## Steps of a run -/

def ItemRecord.measured (item : ItemRecord) :
    String × ItemStatus × Option Int × Option Rat × List Trace × List EvalResult :=
  (item.row.caseId, item.outcome)

namespace RunSystem

/-- A write of a delivery meets an item that is terminal already. -/
def writesLate (env : Environment) (system : RunSystem) : RunAction → Prop
  | .item index action => ∃ slot, system.slots[index]? = some slot ∧
      (slot.system.erasesCompleted action ∨ slot.system.replacesTerminal env action)
  | _ => False

def AllTerminal (system : RunSystem) : Prop :=
  ∀ slot ∈ system.slots, slot.system.item.row.status.terminal = true

def measured (system : RunSystem) :
    List (String × ItemStatus × Option Int × Option Rat × List Trace × List EvalResult) :=
  system.slots.map fun slot => slot.system.item.measured

end RunSystem

def NoLateWrite (env : Environment) (current : RunSystem) (action : RunAction)
    (_ : RunSystem) : Prop :=
  ¬current.writesLate env action

structure CountSound (env : Environment) (system : RunSystem) : Prop where
  evidence : ∀ slot ∈ system.slots, SystemEvidence env slot.task slot.system
  counted : ∀ counts, system.callback = .counted counts → counts.complete = true →
    system.AllTerminal
  comparable : system.run.status.comparable = true → system.AllTerminal

section

variable {env : Environment} {system next : RunSystem} {action : RunAction}

theorem afterItem_status {index : Nat} {slot : Slot} (after : ItemSystem)
    (itemAction : ItemAction) :
    (system.afterItem index slot after itemAction).run.status = system.run.status := by
  cases refreshes : itemAction.refreshes with
  | false => rw [afterItem_run_of_not_refreshes after refreshes]
  | true =>
      rw [afterItem_run_of_refreshes after refreshes]
      rfl

theorem CountSound.itemKept (sound : CountSound env system) {index : Nat} {slot : Slot}
    {after : ItemSystem} {itemAction : ItemAction} (held : system.slots[index]? = some slot)
    (stepped : itemStep env slot.task slot.system itemAction = some after)
    (kept : NoLateWrite env system (.item index itemAction) next) :
    SystemEvidence env slot.task after ∧ TerminalKept slot.system itemAction after := by
  have evidence := sound.evidence slot (List.mem_of_getElem? held)
  have noErasure : ¬slot.system.erasesCompleted itemAction :=
    fun erases => kept ⟨slot, held, .inl erases⟩
  have noReplacement : ¬slot.system.replacesTerminal env itemAction :=
    fun replaces => kept ⟨slot, held, .inr replaces⟩
  exact ⟨evidence.step stepped noErasure,
    terminalKept_of_kept evidence stepped noErasure noReplacement⟩

theorem CountSound.step (sound : CountSound env system)
    (stepped : runStep env system action = some next) (kept : NoLateWrite env system action next) :
    next.dispatch = .failed ∨ CountSound env next := by
  cases runStep_transition stepped with
  | publish index slot held submitting fresh =>
      have terminal : system.AllTerminal → (system.publish index slot).AllTerminal := by
        intro all other member
        rcases List.mem_or_eq_of_mem_set member with old | rfl
        · exact all other old
        · exact all slot (List.mem_of_getElem? held)
      refine .inr ⟨?_, ?_, fun comparable => terminal (sound.comparable comparable)⟩
      · intro other member
        rcases List.mem_or_eq_of_mem_set member with old | rfl
        · exact sound.evidence other old
        · exact (sound.evidence slot (List.mem_of_getElem? held)).publish slot.taskId
      · intro counts counted complete
        exact terminal (sound.counted counts counted complete)
  | submitted submitting published =>
      exact .inr ⟨sound.evidence, sound.counted, sound.comparable⟩
  | submissionFails completedAt submitting => exact .inl rfl
  | item index itemAction slot after held itemStepped =>
      rcases sound.itemKept held itemStepped kept with ⟨evidence, itemKept⟩
      have terminal : system.AllTerminal →
          (system.afterItem index slot after itemAction).AllTerminal := by
        intro all other member
        rw [afterItem_slots] at member
        rcases List.mem_or_eq_of_mem_set member with old | rfl
        · exact all other old
        · have before := all slot (List.mem_of_getElem? held)
          have status := congrArg Prod.fst (itemKept before)
          change after.item.row.status = slot.system.item.row.status at status
          change after.item.row.status.terminal = true
          rw [status]
          exact before
      refine .inr ⟨?_, ?_, ?_⟩
      · intro other member
        rw [afterItem_slots] at member
        rcases List.mem_or_eq_of_mem_set member with old | rfl
        · exact sound.evidence other old
        · exact evidence
      · intro counts counted complete
        rw [afterItem_callback] at counted
        exact terminal (sound.counted counts counted complete)
      · intro comparable
        rw [afterItem_status] at comparable
        exact terminal (sound.comparable comparable)
  | countItems waiting returned =>
      refine .inr ⟨sound.evidence, ?_, sound.comparable⟩
      intro counts counted complete slot member
      cases counted
      exact terminal_of_complete complete _ (List.mem_map_of_mem member)
  | completeRun completedAt counts counted =>
      refine .inr ⟨sound.evidence, ?_, ?_⟩
      · intro others otherCounted
        cases otherCounted
      · intro comparable
        cases complete : counts.complete with
        | true => exact sound.counted counts counted complete
        | false =>
            refine sound.comparable ?_
            have unchanged : completeRun counts completedAt system.run = system.run := by
              simp [completeRun, complete]
            change (completeRun counts completedAt system.run).status.comparable = true
              at comparable
            rw [unchanged] at comparable
            exact comparable

theorem CountSound.dispatched {inputs : DispatchInputs} {request : RunRequest}
    {initial : RunSystem} (dispatched : dispatchRun inputs request = .ok initial) :
    CountSound env initial := by
  rcases dispatchRun_ok dispatched with ⟨plan, -, rfl⟩
  refine ⟨?_, ?_, ?_⟩
  · intro slot member
    rw [mem_createSlots member]
    exact SystemEvidence.created env slot.task _ inputs.utcNow
  · intro counts counted
    simp only [RunPlan.dispatch] at counted
    split at counted <;> cases counted
  · intro comparable
    cases comparable

/-- The invariant holds after every run whose dispatch has not failed. -/
theorem CountSound.reached {inputs : DispatchInputs} {request : RunRequest} {initial : RunSystem}
    {actions : List RunAction} (dispatched : dispatchRun inputs request = .ok initial)
    (reached : run (runStep env) initial actions = some system)
    (kept : Along (runStep env) (NoLateWrite env) initial actions)
    (returned : system.dispatch = .returned) : CountSound env system := by
  have either : system.dispatch = .failed ∨ CountSound env system := by
    refine Transitions.invariant (fun system => system.dispatch = .failed ∨ CountSound env system)
      ?_ (run_eq_some_iff.mp reached) (.inr (CountSound.dispatched dispatched)) kept
    intro current action next invariant stepped kept
    rcases invariant with failed | sound
    · exact .inl (failed_step stepped failed)
    · exact sound.step stepped kept
  rcases either with failed | sound
  · cases returned.symm.trans failed
  · exact sound

theorem RunInvariant.noLateWrite (invariant : RunInvariant env system)
    (stepped : runStep env system action = some next) : NoLateWrite env system action next := by
  intro late
  cases runStep_transition stepped with
  | item index itemAction slot after held itemStepped =>
      rcases late with ⟨other, otherHeld, late⟩
      cases held.symm.trans otherHeld
      have chain := invariant.chains slot (List.mem_of_getElem? held)
      rcases late with erases | replaces
      · exact chain.not_erasesCompleted itemStepped erases
      · unfold ItemSystem.replacesTerminal at replaces
        split at replaces
        · rcases replaces with ⟨terminal, attempt, _, _, _, _, delivered, phase, -⟩
          have agrees := chain.phases attempt (List.mem_of_getElem? delivered)
          rw [phase] at agrees
          change slot.system.item.row.status = .running at agrees
          rw [agrees] at terminal
          cases terminal
        · exact replaces
  | _ => exact late

theorem noLateWrite_of_chained {inputs : DispatchInputs} {request : RunRequest}
    {initial : RunSystem} {actions : List RunAction}
    (dispatched : dispatchRun inputs request = .ok initial) (items : initial.slots ≠ [])
    (chained : Along (runStep env)
      (fun current action _ => current.chained action = true ∧ current.dispatch ≠ .failed)
      initial actions) : Along (runStep env) (NoLateWrite env) initial actions := by
  rcases dispatchRun_ok dispatched with ⟨plan, -, rfl⟩
  have nonempty : plan.cases ≠ [] := by
    intro empty
    rw [RunPlan.dispatch, empty] at items
    exact items rfl
  refine Along.of_invariant (fun system => system.dispatch = .failed ∨ RunInvariant env system) ?_
    (.inr (RunInvariant.dispatched nonempty)) chained
  rintro current action next invariant stepped ⟨chained, live⟩
  rcases invariant with failed | invariant
  · exact absurd failed live
  · exact ⟨invariant.step stepped chained, invariant.noLateWrite stepped⟩

/-! ## Settled runs -/

/-- The submission has returned, the run can be compared, and its items are measured as
before. -/
structure RunSettled (env : Environment) (start system : RunSystem) : Prop where
  sound : CountSound env system
  returned : system.dispatch = .returned
  comparable : system.run.status.comparable = true
  measured : system.measured = start.measured

theorem comparable_completeRun {run : EvalRun} (comparable : run.status.comparable = true)
    (counts : ItemCounts) (completedAt : Nat) :
    (completeRun counts completedAt run).status.comparable = true := by
  unfold completeRun
  split
  · change RunStatus.comparable (if counts.errored = 0 then .completed else .partialRun) = true
    split <;> rfl
  · exact comparable

theorem RunSettled.step {start : RunSystem} (settled : RunSettled env start system)
    (stepped : runStep env system action = some next) (kept : NoLateWrite env system action next) :
    RunSettled env start next := by
  have sound : next.dispatch = .returned → CountSound env next := by
    intro returned
    rcases settled.sound.step stepped kept with failed | sound
    · cases returned.symm.trans failed
    · exact sound
  cases runStep_transition stepped with
  | publish index slot held submitting fresh => cases submitting.symm.trans settled.returned
  | submitted submitting published => cases submitting.symm.trans settled.returned
  | submissionFails completedAt submitting => cases submitting.symm.trans settled.returned
  | item index itemAction slot after held itemStepped =>
      have returned : (system.afterItem index slot after itemAction).dispatch = .returned := by
        rw [afterItem_dispatch]
        exact settled.returned
      rcases settled.sound.itemKept held itemStepped kept with ⟨-, itemKept⟩
      have terminal := settled.sound.comparable settled.comparable slot
        (List.mem_of_getElem? held)
      refine ⟨sound returned, returned, ?_, ?_⟩
      · rw [afterItem_status]
        exact settled.comparable
      · rw [← settled.measured, RunSystem.measured, afterItem_slots]
        refine map_set_slot held ?_
        exact Prod.ext (itemStep_caseId itemStepped) (itemKept terminal)
  | countItems waiting allReturned =>
      exact ⟨sound settled.returned, settled.returned, settled.comparable, settled.measured⟩
  | completeRun completedAt counts counted =>
      exact ⟨sound settled.returned, settled.returned,
        comparable_completeRun settled.comparable counts completedAt, settled.measured⟩

theorem RunSettled.run {later : RunSystem} {actions : List RunAction}
    (sound : CountSound env system) (returned : system.dispatch = .returned)
    (comparable : system.run.status.comparable = true)
    (ran : Foundation.run (runStep env) system actions = some later)
    (kept : Along (runStep env) (NoLateWrite env) system actions) : RunSettled env system later :=
  Transitions.invariant (RunSettled env system)
    (fun _ _ _ settled stepped kept => settled.step stepped kept) (run_eq_some_iff.mp ran)
    ⟨sound, returned, comparable, rfl⟩ kept

end

end EvalForge
