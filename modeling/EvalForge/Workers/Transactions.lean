import EvalForge.Api.RunCommit

/-! # The transactions of the workers

What each step of a dispatched run commits. A step that only reads, or that the
database refuses, commits nothing.
-/

namespace EvalForge

open Foundation

/-! ## The statements of a step -/

structure EvidenceReadings where
  newUuid : Nat → String
  createdAt : Nat → Nat

namespace EvidenceReadings

variable (readings : EvidenceReadings) (itemId : String)

def trace (payload : Json) : TraceRow where
  id := readings.newUuid 0
  runItemId := itemId
  payload := payload
  createdAt := readings.createdAt 0

def result (index : Nat) (result : StoredResult) : EvalResultRow where
  toStoredResult := result
  id := readings.newUuid (index + 1)
  runItemId := itemId
  createdAt := readings.createdAt (index + 1)

def writes (payload : Json) (results : List StoredResult) : List Write :=
  .insertTrace (readings.trace itemId payload) ::
    (results.mapIdx (readings.result itemId)).map .insertResult

end EvidenceReadings

def attemptWrites (storesJson : Json → Bool) (readings : EvidenceReadings) (now : Nat)
    (item : ItemRecord) (attempt : Attempt) (action : AttemptAction) : List Write :=
  match attempt.phase, action with
  | .statusRead, .claim =>
      match claimRunItem now attempt.taskId (attempt.retries + 1) item.row with
      | some row => [.setItem row.id row]
      | none => []
  | .staleData _, .clearStaleData => [.deleteEvidence item.row.id]
  | .evaluated inputs output results completedAt, .commitSuccess _ =>
      match successRows storesJson item.row inputs output results completedAt with
      | none => []
      | some rows =>
          .setItem item.row.id rows.row ::
            readings.writes item.row.id rows.payload rows.results
  | .failing exc loaded completedAt, .commitError =>
      [.setItem item.row.id (commitError item loaded exc completedAt (attempt.retries + 1)).row]
  | _, _ => []

def EvalRun.progressWrite (run : EvalRun) : Write :=
  .setRunProgress run.id run.status run.caseCompleted run.caseErrored run.completedAt

def RunSystem.transaction (storesJson : Json → Bool) (system : RunSystem)
    (readings : EvidenceReadings) : RunAction → List Write
  | .submissionFails completedAt => system.failureWrites completedAt
  | .item index (.attempt delivery action) =>
      match system.slots[index]? with
      | none => []
      | some slot =>
          match slot.system.deliveries[delivery]?, action with
          | none, _ => []
          | some _, .refreshProgress => [(refreshRunProgress system.rows system.run).progressWrite]
          | some attempt, action =>
              attemptWrites storesJson readings slot.system.now slot.system.item attempt action
  | .completeRun completedAt =>
      match system.callback with
      | .counted counts =>
          if counts.complete then [(completeRun counts completedAt system.run).progressWrite]
          else []
      | _ => []
  | _ => []

theorem evidenceWrites_byWorker (readings : EvidenceReadings) (itemId : String) (payload : Json)
    (results : List StoredResult) :
    ∀ write ∈ readings.writes itemId payload results, write.byWorker = true := by
  intro write member
  rcases List.mem_cons.mp member with rfl | result
  · rfl
  · rcases List.mem_map.mp result with ⟨row, -, rfl⟩
    rfl

theorem attemptWrites_byWorker (storesJson : Json → Bool) (readings : EvidenceReadings)
    (now : Nat) (item : ItemRecord) (attempt : Attempt) (action : AttemptAction) :
    ∀ write ∈ attemptWrites storesJson readings now item attempt action,
      write.byWorker = true := by
  intro write member
  unfold attemptWrites at member
  split at member
  · split at member
    · rw [List.mem_singleton.mp member]
      rfl
    · cases member
  · rw [List.mem_singleton.mp member]
    rfl
  · split at member
    · cases member
    · rcases List.mem_cons.mp member with rfl | evidence
      · rfl
      · exact evidenceWrites_byWorker readings _ _ _ write evidence
  · rw [List.mem_singleton.mp member]
    rfl
  · cases member

theorem transaction_byWorker (storesJson : Json → Bool) (system : RunSystem)
    (readings : EvidenceReadings) (action : RunAction) :
    ∀ write ∈ system.transaction storesJson readings action, write.byWorker = true := by
  intro write member
  unfold RunSystem.transaction at member
  split at member
  · exact failureWrites_byWorker system _ write member
  · split at member
    · cases member
    · split at member
      · cases member
      · rw [List.mem_singleton.mp member]
        rfl
      · exact attemptWrites_byWorker storesJson readings _ _ _ _ write member
  · split at member
    · split at member
      · rw [List.mem_singleton.mp member]
        rfl
      · cases member
    · cases member
  · cases member

/-! ## What a statement changes of the stored items -/

section

variable {db next : Database} {runId itemId : String}

def updateItem (itemId : String) (change : ItemRecord → ItemRecord) (items : List ItemRecord) :
    List ItemRecord :=
  updateWhere (fun item => item.row.id == itemId) change items

theorem storedItems_of_same (items : next.evalRunItems = db.evalRunItems)
    (traces : next.traces = db.traces) (results : next.evalResults = db.evalResults) :
    next.storedItems runId = db.storedItems runId := by
  have stored : next.storedItem = db.storedItem := by
    funext row
    simp only [Database.storedItem, Database.resultsOf, traces, results]
  rw [Database.storedItems, Database.storedItems, Database.itemsOf, Database.itemsOf, items, stored]

theorem storedItems_of_evidence (items : next.evalRunItems = db.evalRunItems)
    {change : ItemRecord → ItemRecord}
    (each : ∀ row, next.storedItem row =
      if row.id == itemId then change (db.storedItem row) else db.storedItem row) :
    next.storedItems runId = updateItem itemId change (db.storedItems runId) := by
  rw [Database.storedItems, Database.storedItems, Database.itemsOf, Database.itemsOf, items,
    updateItem, updateWhere, List.map_map]
  exact List.map_congr_left fun row _ => each row

def ItemRecord.setRow (changed : EvalRunItem) (item : ItemRecord) : ItemRecord :=
  { item with
    row := { changed with
      id := item.row.id, runId := item.row.runId, caseId := item.row.caseId } }

theorem storedItems_setItem {changed : EvalRunItem}
    (applied : db.apply (.setItem itemId changed) = some next) :
    next.storedItems runId = updateItem itemId (·.setRow changed) (db.storedItems runId) := by
  cases applied
  have ofRun : ((·.runId == runId) ∘ fun row : EvalRunItem =>
      if row.id == itemId then { changed with id := row.id, runId := row.runId, caseId := row.caseId }
      else row) = (·.runId == runId) := by
    funext row
    rw [Function.comp_apply]
    split <;> rfl
  simp only [Database.storedItems, Database.itemsOf, updateItem, updateWhere, List.filter_map,
    ofRun, List.map_map]
  refine List.map_congr_left fun row _ => ?_
  simp only [Function.comp_apply]
  split
  · next selected =>
    rw [show (db.storedItem row).row.id = row.id from rfl, if_pos selected]
    rfl
  · next other =>
    rw [show (db.storedItem row).row.id = row.id from rfl, if_neg other]
    rfl

theorem storedItems_deleteEvidence
    (applied : db.apply (.deleteEvidence itemId) = some next) :
    next.storedItems runId =
      updateItem itemId (fun item => { item with traces := [], results := [] })
        (db.storedItems runId) := by
  cases applied
  refine @storedItems_of_evidence db _ runId itemId (by rfl)
    (fun item => { item with traces := [], results := [] }) fun row => ?_
  rw [Database.storedItem, Database.resultsOf, List.filter_filter, List.filter_filter]
  split
  · next own =>
    have others {Row : Type} (itemOf : Row → String) (rows : List Row) :
        rows.filter (fun stored => itemOf stored == row.id && itemOf stored != itemId) = [] := by
      rw [List.filter_eq_nil_iff]
      intro stored _
      simp [beq_iff_eq.mp own]
    simp only [others, List.map_nil]
    rfl
  · next other =>
    have all {Row : Type} (itemOf : Row → String) (rows : List Row) :
        rows.filter (fun stored => itemOf stored == row.id && itemOf stored != itemId) =
          rows.filter fun stored => itemOf stored == row.id := by
      refine List.filter_congr fun stored _ => ?_
      by_cases same : itemOf stored = row.id
      · simp [same, mt beq_iff_eq.mpr other]
      · simp [same]
    simp only [all]
    rfl

theorem storedItems_insertEvidence {traces : List TraceRow} {results : List EvalResultRow}
    (ofTraces : ∀ row ∈ traces, row.runItemId = itemId)
    (ofResults : ∀ row ∈ results, row.runItemId = itemId) :
    Database.storedItems
        { db with traces := db.traces ++ traces, evalResults := db.evalResults ++ results } runId =
      updateItem itemId
        (fun item => { item with
          traces := item.traces ++ traces.map fun trace =>
            { payload := trace.payload, writtenBy := 0 }
          results := item.results ++ results.map fun result =>
            { toStoredResult := result.toStoredResult, writtenBy := 0 } })
        (db.storedItems runId) := by
  refine @storedItems_of_evidence db _ runId itemId (by rfl) _ fun row => ?_
  simp only [Database.storedItem, Database.resultsOf, List.filter_append]
  split
  · next own =>
    have all {Row : Type} {itemOf : Row → String} {rows : List Row}
        (ofItem : ∀ stored ∈ rows, itemOf stored = itemId) :
        rows.filter (fun stored => itemOf stored == row.id) = rows := by
      rw [List.filter_eq_self]
      intro stored member
      rw [ofItem stored member, beq_iff_eq.mp own, beq_self_eq_true]
    rw [all ofTraces, all ofResults, List.map_append, List.map_append]
  · next other =>
    have others {Row : Type} {itemOf : Row → String} {rows : List Row}
        (ofItem : ∀ stored ∈ rows, itemOf stored = itemId) :
        rows.filter (fun stored => itemOf stored == row.id) = [] := by
      rw [List.filter_eq_nil_iff]
      intro stored member same
      rw [ofItem stored member] at same
      exact other (beq_iff_eq.mpr (beq_iff_eq.mp same).symm)
    rw [others ofTraces, others ofResults, List.append_nil, List.append_nil]

end

end EvalForge
