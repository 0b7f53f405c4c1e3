import EvalForge.Workers.Evidence
import EvalForge.Workers.Transactions

/-! # A dispatched run in the database

The steps of a dispatched run and their transactions keep its rows and the state
of its workers together: every row of the run is what the workers made it.
-/

namespace EvalForge

open Foundation

structure Database.HoldsItem (db : Database) (item : ItemRecord) : Prop where
  row : item.row ∈ db.evalRunItems
  columns : db.storedItem item.row = item.columns

structure EvidenceReadings.New (readings : EvidenceReadings) (db : Database) : Prop where
  ids : Function.Injective readings.newUuid
  traces : ∀ stored ∈ db.traces, stored.id ≠ readings.newUuid 0
  evalResults : ∀ stored ∈ db.evalResults, ∀ index, stored.id ≠ readings.newUuid index

/-! ## The evidence of a success -/

section

variable {db : Database} {item : ItemRecord} {readings : EvidenceReadings}
variable {payload : Json} {results : List StoredResult}

theorem Database.HoldsItem.traces_eq_nil_iff (held : db.HoldsItem item) :
    item.traces = [] ↔ ∀ trace ∈ db.traces, trace.runItemId ≠ item.row.id := by
  have traces := congrArg ItemRecord.traces held.columns
  simp only [Database.storedItem, ItemRecord.columns] at traces
  rw [← List.map_eq_nil_iff, ← traces, List.map_eq_nil_iff, List.filter_eq_nil_iff]
  simp only [beq_iff_eq]

theorem Database.HoldsItem.names (held : db.HoldsItem item) :
    (db.resultsOf item.row.id).map (·.evaluatorName) = item.results.map (·.evaluatorName) := by
  have stored := congrArg ItemRecord.results held.columns
  have names := congrArg (List.map fun result : EvalResult => result.evaluatorName) stored
  simp only [Database.storedItem, ItemRecord.columns, List.map_map] at names
  exact names

theorem writes_evidences (readings : EvidenceReadings) (itemId : String) (payload : Json)
    (results : List StoredResult) :
    ∀ write ∈ readings.writes itemId payload results, write.Evidences itemId := by
  intro write member
  rcases List.mem_cons.mp member with rfl | result
  · rfl
  · rcases List.mem_map.mp result with ⟨row, rowMember, rfl⟩
    rcases List.mem_mapIdx.mp rowMember with ⟨index, bound, rfl⟩
    rfl

theorem writes_ofRun (readings : EvidenceReadings) (itemId : String) (payload : Json)
    (results : List StoredResult) :
    ∀ write ∈ readings.writes itemId payload results, write.ofRun = true := by
  intro write member
  rcases List.mem_cons.mp member with rfl | result
  · rfl
  · rcases List.mem_map.mp result with ⟨row, -, rfl⟩
    rfl

theorem withRunRows_evidence (readings : EvidenceReadings) (itemId : String) (payload : Json)
    (results : List StoredResult) :
    db.withRunRows (readings.writes itemId payload results) = { db with
      traces := db.traces ++ [readings.trace itemId payload]
      evalResults := db.evalResults ++ results.mapIdx (readings.result itemId) } := by
  simp only [Database.withRunRows, EvidenceReadings.writes, List.filterMap_cons, Write.run?,
    Write.item?, Write.trace?, Write.result?]
  rw [filterMap_others Write.run? Write.insertResult fun _ => rfl,
    filterMap_others Write.item? Write.insertResult fun _ => rfl,
    filterMap_others Write.trace? Write.insertResult fun _ => rfl,
    filterMap_inserts Write.result? Write.insertResult fun _ => rfl, List.append_nil,
    List.append_nil]

theorem Database.HoldsItem.evidence_keyed (held : db.HoldsItem item) (keyed : db.EvidenceKeyed)
    (fresh : readings.New db) (stored : item.conflicts (results.map (·.toEvaluationResult)) = false) :
    Keyed TraceRow.conflicts (db.traces ++ [readings.trace item.row.id payload]) ∧
      Keyed EvalResultRow.conflicts
        (db.evalResults ++ results.mapIdx (readings.result item.row.id)) := by
  rw [ItemRecord.conflicts, Bool.or_eq_false_iff, Bool.not_eq_false', Bool.not_eq_false',
    List.isEmpty_iff, decide_eq_true_eq, ← held.names, List.map_map] at stored
  rcases stored with ⟨untraced, names⟩
  rcases List.nodup_append.mp names with ⟨-, distinct, apart⟩
  constructor
  · refine keyed.traces.insert fun trace member => ?_
    have other := held.traces_eq_nil_iff.mp untraced trace member
    simp only [TraceRow.conflicts, EvidenceReadings.trace, Bool.or_eq_false_iff,
      beq_eq_false_iff_ne]
    exact ⟨(fresh.traces trace member).symm, other.symm⟩
  · refine List.pairwise_append.mpr ⟨keyed.evalResults, ?_, ?_⟩
    · have inOrder := List.pairwise_map.mp distinct
      rw [List.pairwise_iff_getElem] at inOrder ⊢
      intro index other bound otherBound before
      rw [List.length_mapIdx] at bound otherBound
      have names := inOrder index other bound otherBound before
      have ids : readings.newUuid (other + 1) ≠ readings.newUuid (index + 1) := by
        intro same
        have equal := fresh.ids same
        omega
      simp only [List.getElem_mapIdx, EvalResultRow.conflicts, EvidenceReadings.result,
        Bool.or_eq_false_iff, Bool.and_eq_false_iff, beq_eq_false_iff_ne]
      exact ⟨ids, .inr names.symm⟩
    · intro result member row rowMember
      rcases List.mem_mapIdx.mp rowMember with ⟨index, bound, rfl⟩
      simp only [EvalResultRow.conflicts, EvidenceReadings.result, Bool.or_eq_false_iff,
        Bool.and_eq_false_iff, beq_eq_false_iff_ne]
      refine ⟨(fresh.evalResults result member _).symm, ?_⟩
      by_cases own : result.runItemId = item.row.id
      · have ofItem : result ∈ db.resultsOf item.row.id :=
          List.mem_filter.mpr ⟨member, beq_iff_eq.mpr own⟩
        refine .inr (Ne.symm (apart _ (List.mem_map_of_mem ofItem) _ ?_))
        exact List.mem_map_of_mem (List.getElem_mem bound)
      · exact .inl (Ne.symm own)

theorem Database.HoldsItem.not_conflicts (held : db.HoldsItem item)
    (traces : Keyed TraceRow.conflicts (db.traces ++ [readings.trace item.row.id payload]))
    (evalResults : Keyed EvalResultRow.conflicts
      (db.evalResults ++ results.mapIdx (readings.result item.row.id))) :
    item.conflicts (results.map (·.toEvaluationResult)) = false := by
  rw [ItemRecord.conflicts, Bool.or_eq_false_iff, Bool.not_eq_false', Bool.not_eq_false',
    List.isEmpty_iff, decide_eq_true_eq, ← held.names, List.map_map]
  constructor
  · rw [held.traces_eq_nil_iff]
    intro trace member same
    have free := free_of_keyed traces trace member
    rw [TraceRow.conflicts, same, Bool.or_eq_false_iff] at free
    simp [EvidenceReadings.trace] at free
  · have ofItem := (evalResults.filter (·.runItemId == item.row.id)).nodup_map
      (fun stored storedMember row member (same : stored.evaluatorName = row.evaluatorName) => by
        have storedOwn := beq_iff_eq.mp (List.mem_filter.mp storedMember).2
        have own := beq_iff_eq.mp (List.mem_filter.mp member).2
        simp [EvalResultRow.conflicts, storedOwn, own, same])
    have added : (results.mapIdx (readings.result item.row.id)).filter
        (·.runItemId == item.row.id) = results.mapIdx (readings.result item.row.id) := by
      rw [List.filter_eq_self]
      intro row member
      rcases List.mem_mapIdx.mp member with ⟨index, bound, rfl⟩
      exact beq_self_eq_true _
    have names : (results.mapIdx (readings.result item.row.id)).map (·.evaluatorName) =
        results.map (·.evaluatorName) := by
      rw [map_mapIdx, ← mapIdx_const]
      rfl
    rw [List.filter_append, added, List.map_append, names] at ofItem
    exact ofItem

end

/-! ## The transactions of an attempt -/

structure ChangesItem (db next : Database) (item changed : ItemRecord) : Prop where
  evalRuns : next.evalRuns = db.evalRuns
  items : ∃ change : ItemRecord → ItemRecord, change item.columns = changed.columns ∧
    ∀ runId, next.storedItems runId = updateItem item.row.id change (db.storedItems runId)

theorem ChangesItem.same {db : Database} {item changed : ItemRecord}
    (columns : changed.columns = item.columns) : ChangesItem db db item changed := by
  refine ⟨rfl, id, columns.symm, fun runId => ?_⟩
  rw [updateItem, updateWhere]
  conv_lhs => rw [← List.map_id (db.storedItems runId)]
  refine List.map_congr_left fun stored _ => ?_
  split <;> rfl

section

variable {db : Database} {item : ItemRecord} {readings : EvidenceReadings}

theorem setRow_columns {row : EvalRunItem} (precedes : item.row.Precedes row) :
    item.columns.setRow row = { item with row }.columns := by
  rcases precedes with ⟨sameId, sameRun, sameCase⟩
  simp only [ItemRecord.setRow, ItemRecord.columns, ← sameId, ← sameRun, ← sameCase]

theorem ChangesItem.setItem {row : EvalRunItem} (precedes : item.row.Precedes row) :
    ChangesItem db ((db.commit [.setItem row.id row]).getD db) item { item with row } := by
  rw [precedes.1]
  exact ⟨rfl, (·.setRow row), setRow_columns precedes, fun _ => storedItems_setItem rfl⟩

theorem ChangesItem.deleteEvidence :
    ChangesItem db ((db.commit [.deleteEvidence item.row.id]).getD db) item
      (clearStaleData item) :=
  ⟨rfl, _, rfl, fun _ => storedItems_deleteEvidence rfl⟩

theorem updateItem_updateItem {itemId : String} {first second : ItemRecord → ItemRecord}
    (same : ∀ item, (first item).row.id = item.row.id) (items : List ItemRecord) :
    updateItem itemId second (updateItem itemId first items) =
      updateItem itemId (second ∘ first) items := by
  rw [updateItem, updateItem, updateItem, updateWhere, updateWhere, updateWhere, List.map_map]
  refine List.map_congr_left fun item _ => ?_
  rw [Function.comp_apply]
  split
  · next own => rw [same, if_pos own, Function.comp_apply]
  · rfl

variable {payload : Json} {results : List StoredResult}

def ItemRecord.withEvidence (payload : Json) (results : List StoredResult)
    (item : ItemRecord) : ItemRecord :=
  item.insertEvidence payload results 0

theorem withEvidence_columns (writtenBy : Nat) :
    item.columns.withEvidence payload results =
      (item.insertEvidence payload results writtenBy).columns := by
  simp only [ItemRecord.withEvidence, ItemRecord.columns, ItemRecord.insertEvidence,
    List.map_append, List.map_map]
  rfl

theorem recorded_results (readings : EvidenceReadings) (itemId : String) :
    ((results.mapIdx (readings.result itemId)).map fun result =>
      ({ toStoredResult := result.toStoredResult, writtenBy := 0 } : EvalResult)) =
      results.map fun result => { toStoredResult := result, writtenBy := 0 } := by
  rw [map_mapIdx, ← mapIdx_const]
  rfl

theorem storedItems_evidence (readings : EvidenceReadings) (itemId runId : String) :
    (db.withRunRows (readings.writes itemId payload results)).storedItems runId =
      updateItem itemId (·.withEvidence payload results) (db.storedItems runId) := by
  have stored := @storedItems_insertEvidence db runId itemId [readings.trace itemId payload]
    (results.mapIdx (readings.result itemId)) ?_ ?_
  · rw [recorded_results] at stored
    rw [withRunRows_evidence]
    exact stored
  · intro row member
    rw [List.mem_singleton.mp member]
    rfl
  · intro row member
    rcases List.mem_mapIdx.mp member with ⟨index, bound, rfl⟩
    rfl

theorem ChangesItem.success {row : EvalRunItem} (consistent : db.Consistent)
    (keyed : db.EvidenceKeyed) (fresh : readings.New db) (held : db.HoldsItem item)
    (precedes : item.row.Precedes row) (writtenBy : Nat) :
    ChangesItem db
      ((db.commit (.setItem item.row.id row ::
        readings.writes item.row.id payload results)).getD db) item
      (if item.conflicts (results.map (·.toEvaluationResult)) then item
        else { item with row }.insertEvidence payload results writtenBy) := by
  have applied : ∃ updated, db.apply (.setItem item.row.id row) = some updated := ⟨_, rfl⟩
  rcases applied with ⟨updated, applied⟩
  have unchanged : updated.evalRuns = db.evalRuns ∧ updated.traces = db.traces ∧
      updated.evalResults = db.evalResults := by
    cases applied
    exact ⟨rfl, rfl, rfl⟩
  have begins : db.commit (.setItem item.row.id row ::
      readings.writes item.row.id payload results) =
      updated.commit (readings.writes item.row.id payload results) := by
    rw [Database.commit, applied]
    rfl
  have ofRun := writes_ofRun readings item.row.id payload results
  rw [begins]
  cases refused : item.conflicts (results.map (·.toEvaluationResult)) with
  | true =>
      have refusal : updated.commit (readings.writes item.row.id payload results) = none := by
        rw [Option.eq_none_iff_forall_ne_some]
        intro next committed
        have nextKeyed := (keyed.apply applied).commit committed
        rw [commit_ofRun ofRun committed, withRunRows_evidence] at nextKeyed
        rcases nextKeyed with ⟨traces, evalResults⟩
        simp only [unchanged.2.1, unchanged.2.2] at traces evalResults
        rw [held.not_conflicts traces evalResults] at refused
        cases refused
      rw [refusal]
      exact .same rfl
  | false =>
      have there : updated.hasItem item.row.id = true := by
        have grows := (Database.Precedes.of_apply applied).evalRunItems
        rcases grows.exists_mem held.row with ⟨later, member, kept⟩
        exact List.any_eq_true.mpr ⟨later, member, beq_iff_eq.mpr kept.1⟩
      have updatedKeyed := (consistent.applyByWorker rfl applied).keyed
      have tables : (updated.withRunRows
          (readings.writes item.row.id payload results)).RunTablesKeyed := by
        rcases held.evidence_keyed keyed fresh refused with ⟨traces, evalResults⟩
        rw [withRunRows_evidence]
        simp only [unchanged.2.1, unchanged.2.2]
        exact ⟨updatedKeyed.evalRuns, updatedKeyed.evalRunItems, traces, evalResults⟩
      rw [commit_of_keyed ofRun (referenced_evidence there (writes_evidences readings _ _ _)) tables,
        Option.getD_some, if_neg Bool.false_ne_true]
      constructor
      · rw [withRunRows_evidence]
        exact unchanged.1
      · refine ⟨(·.withEvidence payload results) ∘ (·.setRow row), ?_, fun runId => ?_⟩
        · rw [Function.comp_apply, setRow_columns precedes]
          exact withEvidence_columns writtenBy
        · rw [storedItems_evidence, storedItems_setItem applied]
          exact @updateItem_updateItem item.row.id (·.setRow row)
            (·.withEvidence payload results) (fun _ => rfl) _

theorem attemptWrites_interrupt (storesJson : Json → Bool) (now : Nat) (attempt : Attempt)
    (exc : PythonException) :
    attemptWrites storesJson readings now item attempt (.interrupt exc) = [] := by
  unfold attemptWrites
  cases attempt.phase <;> rfl

theorem attemptWrites_crash (storesJson : Json → Bool) (now : Nat) (attempt : Attempt) :
    attemptWrites storesJson readings now item attempt .crash = [] := by
  unfold attemptWrites
  cases attempt.phase <;> rfl

theorem AttemptTransition.changes {env : Environment} {task : CaseTask} {now : Nat}
    {attempt : Attempt} {action : AttemptAction} {result : AttemptResult}
    (transition : AttemptTransition env task now item attempt action result)
    (consistent : db.Consistent) (keyed : db.EvidenceKeyed) (fresh : readings.New db)
    (held : db.HoldsItem item) :
    ChangesItem db
      ((db.commit (attemptWrites env.storesJson readings now item attempt action)).getD db) item
      result.item := by
  cases transition with
  | claim row phase claims =>
      have precedes : item.row.Precedes row := by
        rcases claimRunItem_some claims with ⟨-, rfl⟩
        exact ⟨rfl, rfl, rfl⟩
      simp only [attemptWrites, phase, claims]
      exact .setItem precedes
  | clear inputs phase =>
      simp only [attemptWrites, phase]
      exact .deleteEvidence
  | conflict inputs output results completedAt integrityError phase refused =>
      simp only [attemptWrites, phase]
      split
      · exact .same rfl
      · next rows stored =>
        rcases (successRows_some stored).2 with ⟨⟨_, _, row⟩, _, rounded⟩
        have conflicting : item.conflicts results = true := by
          rw [commitSuccess, stored] at refused
          by_contra free
          rw [if_neg free] at refused
          cases refused
        have changes := @ChangesItem.success db item readings rows.payload rows.results rows.row
          consistent keyed fresh held (row ▸ ⟨rfl, rfl, rfl⟩) 0
        rw [rounded, ItemRecord.conflicts_rounded, if_pos conflicting] at changes
        exact changes
  | commit inputs output results completedAt integrityError committed phase success =>
      have free := (commitSuccess_some success).1.free
      rw [commitSuccess, free] at success
      rcases Option.map_eq_some_iff.mp success with ⟨rows, stored, rfl⟩
      rcases (successRows_some stored).2 with ⟨⟨_, _, row⟩, _, rounded⟩
      have changes := @ChangesItem.success db item readings rows.payload rows.results rows.row
        consistent keyed fresh held (row ▸ ⟨rfl, rfl, rfl⟩) attempt.delivery
      rw [rounded, ItemRecord.conflicts_rounded, free, if_neg Bool.false_ne_true] at changes
      simp only [attemptWrites, phase, stored]
      exact changes
  | record exc loaded completedAt phase =>
      simp only [attemptWrites, phase]
      exact @ChangesItem.setItem db item
        (commitError item loaded exc completedAt (attempt.retries + 1)).row ⟨rfl, rfl, rfl⟩
  | lose phase refused =>
      simp only [attemptWrites, phase, refused]
      exact .same rfl
  | interrupt exc inTry =>
      rw [attemptWrites_interrupt]
      exact .same rfl
  | crash active =>
      rw [attemptWrites_crash]
      exact .same rfl
  | skip phase | read phase | missing _ phase | loadStale _ phase | load _ phase
  | adapterFails _ _ phase | evaluationFails _ _ _ phase | evaluate _ _ _ phase | retry _ phase
  | settled _ phase | fail _ phase | finish _ phase =>
      simp only [attemptWrites, phase]
      exact .same rfl

end

/-! ## The transactions of a run -/

def Slot.columns (slot : Slot) : ItemRecord := slot.system.item.columns

/-- The rows of the run, its items and their evidence are what the workers made them. -/
structure RunSystem.StoredIn (system : RunSystem) (createdAt : Nat) (db : Database) : Prop where
  run : db.run? system.run.id = some { toEvalRun := system.run, createdAt }
  items : db.storedItems system.run.id = system.slots.map (·.columns)

theorem run?_setRunProgress {db changed : Database} {runId : String} {status : RunStatus}
    {caseCompleted caseErrored : Nat} {completedAt : Option Nat} {row : EvalRunRow}
    (found : db.run? runId = some row)
    (applied : db.apply (.setRunProgress runId status caseCompleted caseErrored completedAt) =
      some changed) :
    changed.run? runId =
      some { row with status, caseCompleted, caseErrored, completedAt } := by
  cases applied
  refine (find?_updateWhere
    (fun row : EvalRunRow => { row with status, caseCompleted, caseErrored, completedAt })
    db.evalRuns fun _ => rfl).trans ?_
  rw [Database.run?] at found
  have named : row.id = runId := (mem_of_find?_key found).2
  rw [found, Option.map_some, if_pos (beq_iff_eq.mpr named)]

theorem commit_setItems (db : Database) (rows : List EvalRunItem) :
    ∃ changed, db.commit (rows.map fun row => .setItem row.id row) = some changed ∧
      changed.evalRuns = db.evalRuns ∧
      ∀ runId, changed.storedItems runId =
        rows.foldl (fun items row => updateItem row.id (·.setRow row) items)
          (db.storedItems runId) := by
  induction rows generalizing db with
  | nil => exact ⟨db, rfl, rfl, fun _ => rfl⟩
  | cons row rows induction =>
      have applied : ∃ updated, db.apply (.setItem row.id row) = some updated := ⟨_, rfl⟩
      rcases applied with ⟨updated, applied⟩
      rcases induction updated with ⟨changed, committed, evalRuns, items⟩
      refine ⟨changed, ?_, ?_, fun runId => ?_⟩
      · rw [List.map_cons, Database.commit, applied]
        exact committed
      · rw [evalRuns]
        cases applied
        rfl
      · rw [items, storedItems_setItem applied]
        rfl

namespace RunSystem.StoredIn

variable {system next : RunSystem} {createdAt : Nat} {db changed : Database}

theorem storedItems (stored : system.StoredIn createdAt db) :
    db.storedItems system.run.id =
      (system.slots.map fun slot => slot.system.item).map (·.columns) := by
  rw [stored.items, List.map_map]
  rfl

theorem rows (stored : system.StoredIn createdAt db) :
    db.itemsOf system.run.id = system.rows := by
  rw [Database.itemsOf_of_storedItems stored.storedItems, List.map_map]
  rfl

theorem distinct (stored : system.StoredIn createdAt db) (consistent : db.Consistent) :
    (system.slots.map fun slot => slot.columns.row.id).Nodup := by
  have ids := (consistent.keyed.evalRunItems.filter (·.runId == system.run.id)).nodup_map
    (fun stored _ row _ (same : stored.id = row.id) => by
      rw [EvalRunItem.conflicts, same, beq_self_eq_true, Bool.true_or])
  have rows := stored.rows
  rw [Database.itemsOf] at rows
  rw [rows, RunSystem.rows, List.map_map] at ids
  exact ids

theorem holds (stored : system.StoredIn createdAt db) {slot : Slot} (member : slot ∈ system.slots) :
    db.HoldsItem slot.system.item := by
  have rowMember : slot.system.item.row ∈ db.itemsOf system.run.id := by
    rw [stored.rows]
    exact List.mem_map_of_mem member
  exact ⟨(List.mem_filter.mp rowMember).1, Database.storedItem_of_storedItems stored.storedItems _
    (List.mem_map_of_mem member)⟩

theorem same (stored : system.StoredIn createdAt db) (run : next.run = system.run)
    (slots : next.slots.map (·.columns) = system.slots.map (·.columns)) :
    next.StoredIn createdAt db := by
  constructor
  · rw [run]
    exact stored.run
  · rw [run, slots]
    exact stored.items

theorem updateSlot (stored : system.StoredIn createdAt db) (consistent : db.Consistent)
    {index : Nat} {slot : Slot} {after : ItemSystem} (held : system.slots[index]? = some slot)
    (changes : ChangesItem db changed slot.system.item after.item) :
    (system.updateSlot index { slot with system := after }).StoredIn createdAt changed := by
  rcases changes with ⟨evalRuns, change, columns, items⟩
  constructor
  · rw [Database.run?, evalRuns]
    exact stored.run
  · refine (items system.run.id).trans ?_
    rw [stored.items]
    exact @updateWhere_map_eq_set _ _ _ _ _ (·.row.id) Slot.columns system.slots index slot
      { slot with system := after } change (stored.distinct consistent) held columns.symm

theorem setProgress (stored : system.StoredIn createdAt db) {run : EvalRun}
    (progressed : ({ system.run with
      status := run.status, caseCompleted := run.caseCompleted
      caseErrored := run.caseErrored, completedAt := run.completedAt } : EvalRun) = run)
    (slots : next.slots.map (·.columns) = system.slots.map (·.columns)) (nextRun : next.run = run)
    (applied : db.apply run.progressWrite = some changed) :
    next.StoredIn createdAt changed := by
  have sameId : run.id = system.run.id := by rw [← progressed]
  have found := run?_setRunProgress (sameId ▸ stored.run) applied
  constructor
  · rw [nextRun, found]
    conv_rhs => rw [← progressed]
  · rw [nextRun, slots, sameId, ← stored.items]
    cases applied
    exact storedItems_of_same rfl rfl rfl

theorem failSubmission (stored : system.StoredIn createdAt db) (consistent : db.Consistent)
    (completedAt : Nat) :
    ∃ changed, db.commit (system.failureWrites completedAt) = some changed ∧
      (system.failSubmission completedAt).StoredIn createdAt changed := by
  let failed := system.failSubmission completedAt
  have applied : ∃ progressed, db.apply failed.run.progressWrite = some progressed := ⟨_, rfl⟩
  rcases applied with ⟨progressed, applied⟩
  rcases commit_setItems progressed failed.rows with ⟨changed, committed, evalRuns, items⟩
  have begins : db.commit (system.failureWrites completedAt) =
      (db.apply failed.run.progressWrite).bind
        (·.commit (failed.rows.map fun row => .setItem row.id row)) := rfl
  refine ⟨changed, ?_, ?_⟩
  · rw [begins, applied]
    exact committed
  · have progress : ({ system with run := failed.run } : RunSystem).StoredIn createdAt progressed :=
      stored.setProgress rfl rfl rfl applied
    constructor
    · rw [Database.run?, evalRuns]
      exact progress.run
    · rw [items]
      have written := @foldl_updateWhere_map _ _ _ _ _ (·.row.id) Slot.columns
        (fun slot => Slot.columns { slot with system := slot.system.failSubmission completedAt })
        (fun slot item => item.setRow (slot.system.failSubmission completedAt).item.row)
        system.slots (stored.distinct consistent) (fun _ _ => rfl) (fun _ _ => rfl) []
        (List.forall_mem_nil _)
      have before : progressed.storedItems failed.run.id = system.slots.map (·.columns) :=
        progress.items
      have failedRows : failed.rows = system.slots.map fun slot =>
          (slot.system.failSubmission completedAt).item.row := by
        simp only [failed, RunSystem.rows, RunSystem.failSubmission, List.map_map,
          Function.comp_def]
      refine (congrArg (failed.rows.foldl _) before).trans ?_
      rw [failedRows, List.foldl_map, RunSystem.failSubmission, List.map_map]
      exact written

end RunSystem.StoredIn

/-! ## The steps of a run -/

section

variable {env : Environment} {system next : RunSystem} {createdAt : Nat} {db : Database}
variable {readings : EvidenceReadings}

theorem transaction_attempt {index delivery : Nat} {slot : Slot} {attempt : Attempt}
    {action : AttemptAction} (held : system.slots[index]? = some slot)
    (delivered : slot.system.deliveries[delivery]? = some attempt)
    (other : action ≠ .refreshProgress) (storesJson : Json → Bool) :
    system.transaction storesJson readings (.item index (.attempt delivery action)) =
      attemptWrites storesJson readings slot.system.now slot.system.item attempt action := by
  cases action with
  | refreshProgress => exact absurd rfl other
  | _ => simp only [RunSystem.transaction, held, delivered]

/-- A step of the run, with its transaction, keeps the run stored. -/
theorem storedIn_step {action : RunAction} (stored : system.StoredIn createdAt db)
    (consistent : db.Consistent) (keyed : db.EvidenceKeyed) (fresh : readings.New db)
    (stepped : runStep env system action = some next) :
    next.StoredIn createdAt
      ((db.commit (system.transaction env.storesJson readings action)).getD db) := by
  cases runStep_transition stepped with
  | publish index slot held submitting unpublished =>
      exact stored.same rfl (map_set_slot held rfl)
  | submitted submitting published => exact stored.same rfl rfl
  | submissionFails completedAt submitting =>
      rcases stored.failSubmission consistent completedAt with ⟨changed, committed, failed⟩
      rw [RunSystem.transaction, committed]
      exact failed
  | countItems waiting returned => exact stored.same rfl rfl
  | completeRun completedAt counts counted =>
      simp only [RunSystem.transaction, counted]
      cases complete : counts.complete with
      | true =>
          refine stored.setProgress ?_ rfl rfl rfl
          rw [completeRun, if_pos complete]
      | false =>
          refine stored.same ?_ rfl
          rw [completeRun, complete, if_neg Bool.false_ne_true]
  | item index action slot after held itemStepped =>
      have slots (same : after.item = slot.system.item) :
          (system.afterItem index slot after action).slots.map (·.columns) =
            system.slots.map (·.columns) := by
        rw [afterItem_slots]
        exact map_set_slot held (by rw [Slot.columns, Slot.columns, same])
      cases itemStep_transition itemStepped with
      | tick elapsed =>
          exact stored.same (afterItem_run_of_not_refreshes _ rfl) (slots rfl)
      | deliver message published =>
          exact stored.same (afterItem_run_of_not_refreshes _ rfl) (slots rfl)
      | attempt delivery action attempt result delivered transition =>
          by_cases refreshes : action = .refreshProgress
          · subst refreshes
            cases transition with
            | finish result phase =>
                simp only [RunSystem.transaction, held, delivered]
                refine stored.setProgress rfl (slots rfl) ?_ rfl
                have sameRows : (system.afterItem index slot
                    (slot.system.afterAttempt delivery attempt
                      (attempt.enter slot.system.item (.returned result)))
                    (.attempt delivery .refreshProgress)).rows = system.rows := by
                  rw [RunSystem.rows, afterItem_slots]
                  exact map_set_slot held rfl
                rw [afterItem_run_of_refreshes _ rfl, sameRows]
          · rw [transaction_attempt held delivered refreshes]
            have changes := transition.changes consistent keyed fresh
              (stored.holds (List.mem_of_getElem? held))
            have quiet : ItemAction.refreshes (.attempt delivery action) = false := by
              cases action with
              | refreshProgress => exact absurd rfl refreshes
              | _ => rfl
            rw [RunSystem.afterItem, quiet, if_neg Bool.false_ne_true]
            exact @RunSystem.StoredIn.updateSlot system createdAt db _ stored consistent index slot
              (slot.system.afterAttempt delivery attempt result) held changes

end

end EvalForge
