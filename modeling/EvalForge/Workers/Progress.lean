import EvalForge.Models.Entities

/-! # Progress and completion of a run

The queries that count the items of a run, and what the completion callback
writes from the counts.
-/

namespace EvalForge

def completedCount (items : List EvalRunItem) : Nat :=
  items.countP fun item => item.status == .completed

def erroredCount (items : List EvalRunItem) : Nat :=
  items.countP fun item => item.status.failed

def refreshRunProgress (items : List EvalRunItem) (run : EvalRun) : EvalRun :=
  { run with
    caseCompleted := completedCount items
    caseErrored := erroredCount items }

/-- The row of the query in `check_run_completion`. -/
structure ItemCounts where
  total : Nat
  completed : Nat
  errored : Nat

def countItems (items : List EvalRunItem) : ItemCounts where
  total := items.length
  completed := completedCount items
  errored := erroredCount items

def ItemCounts.complete (counts : ItemCounts) : Bool :=
  decide (counts.total ≠ 0) && decide (counts.completed + counts.errored ≥ counts.total)

/-- The update of `check_run_completion`. -/
def completeRun (counts : ItemCounts) (completedAt : Nat) (run : EvalRun) : EvalRun :=
  if counts.complete then
    { run with
      status := if counts.errored = 0 then .completed else .partialRun
      caseCompleted := counts.completed
      caseErrored := counts.errored
      completedAt := some completedAt }
  else
    run

/-! ## Counting terminal items -/

theorem completedCount_cons (item : EvalRunItem) (items : List EvalRunItem) :
    completedCount (item :: items) =
      completedCount items + if item.status = .completed then 1 else 0 := by
  simp [completedCount, List.countP_cons]

theorem erroredCount_cons (item : EvalRunItem) (items : List EvalRunItem) :
    erroredCount (item :: items) =
      erroredCount items + if item.status.failed then 1 else 0 := by
  simp [erroredCount, List.countP_cons]

theorem completedCount_add_erroredCount {items : List EvalRunItem}
    (terminal : ∀ item ∈ items, item.status.terminal = true) :
    completedCount items + erroredCount items = items.length := by
  induction items with
  | nil => rfl
  | cons item items induction =>
      have rest := induction fun other member => terminal other (List.mem_cons_of_mem _ member)
      have first := terminal item List.mem_cons_self
      rw [completedCount_cons, erroredCount_cons, List.length_cons, ← rest]
      cases status : item.status <;>
        simp [status, ItemStatus.terminal, ItemStatus.failed] at first ⊢ <;> omega

theorem erroredCount_eq_length {items : List EvalRunItem}
    (errored : ∀ item ∈ items, item.status = .errored) :
    erroredCount items = items.length := by
  apply List.countP_eq_length.mpr
  intro item member
  rw [errored item member]
  rfl

theorem countItems_complete {items : List EvalRunItem} (nonempty : items ≠ [])
    (terminal : ∀ item ∈ items, item.status.terminal = true) :
    (countItems items).complete = true := by
  have counted := completedCount_add_erroredCount terminal
  have positive : items.length ≠ 0 := by simpa using nonempty
  simp [ItemCounts.complete, countItems, counted, nonempty]

end EvalForge
