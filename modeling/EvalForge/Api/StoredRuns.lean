import EvalForge.Api.History

/-! # Runs that are stored

The rows that the synchronous executor commits are read back as the items that it
made, with their results and traces, and the rows of every other run stay.
-/

namespace EvalForge

open Foundation

/-! ## The statements of a run -/

/-- The inserts of a run, its items and their evidence. -/
def Write.ofRun : Write → Bool
  | .insertRun _ | .insertItem _ | .insertTrace _ | .insertResult _ => true
  | _ => false

def Write.run? : Write → Option EvalRunRow
  | .insertRun row => some row
  | _ => none

def Write.item? : Write → Option EvalRunItem
  | .insertItem row => some row
  | _ => none

def Write.trace? : Write → Option TraceRow
  | .insertTrace row => some row
  | _ => none

def Write.result? : Write → Option EvalResultRow
  | .insertResult row => some row
  | _ => none

def Database.withRunRows (db : Database) (writes : List Write) : Database :=
  { db with
    evalRuns := db.evalRuns ++ writes.filterMap Write.run?
    evalRunItems := db.evalRunItems ++ writes.filterMap Write.item?
    traces := db.traces ++ writes.filterMap Write.trace?
    evalResults := db.evalResults ++ writes.filterMap Write.result? }

section

variable {db next : Database}

theorem apply_ofRun {write : Write} (ofRun : write.ofRun = true)
    (applied : db.apply write = some next) : next = db.withRunRows [write] := by
  cases write with
  | insertRun row =>
      rcases apply_insertRun applied with ⟨-, -, rfl⟩
      simp [Database.withRunRows, Write.run?, Write.item?, Write.trace?, Write.result?]
  | insertItem row =>
      rcases apply_insertItem applied with ⟨-, -, rfl⟩
      simp [Database.withRunRows, Write.run?, Write.item?, Write.trace?, Write.result?]
  | insertTrace row =>
      rcases apply_insertTrace applied with ⟨-, -, rfl⟩
      simp [Database.withRunRows, Write.run?, Write.item?, Write.trace?, Write.result?]
  | insertResult row =>
      rcases apply_insertResult applied with ⟨-, -, rfl⟩
      simp [Database.withRunRows, Write.run?, Write.item?, Write.trace?, Write.result?]
  | _ => cases ofRun

theorem withRunRows_cons (write : Write) (writes : List Write) :
    (db.withRunRows [write]).withRunRows writes = db.withRunRows (write :: writes) := by
  have split {Row : Type} (row? : Write → Option Row) :
      [write].filterMap row? ++ writes.filterMap row? = (write :: writes).filterMap row? :=
    List.filterMap_append.symm
  simp only [Database.withRunRows, List.append_assoc, split]

theorem commit_ofRun {writes : List Write} (ofRun : ∀ write ∈ writes, write.ofRun = true)
    (committed : db.commit writes = some next) : next = db.withRunRows writes := by
  induction writes generalizing db with
  | nil =>
      cases committed
      simp [Database.withRunRows]
  | cons write writes induction =>
      rcases commit_cons committed with ⟨middle, applied, rest⟩
      have first := apply_ofRun (ofRun write List.mem_cons_self) applied
      rw [induction (fun other member => ofRun other (List.mem_cons_of_mem write member)) rest,
        first, withRunRows_cons]

end

/-! ## The rows of a record -/

def resultRows (readings : RunReadings) (index : Nat) (item : ItemRecord) : List EvalResultRow :=
  item.results.mapIdx fun position result =>
    { toStoredResult := result.toStoredResult
      id := readings.evidenceUuid index (item.traces.length + position)
      runItemId := item.row.id
      createdAt := readings.evidenceCreatedAt index (item.traces.length + position) }

def traceRows (readings : RunReadings) (index : Nat) (item : ItemRecord) : List TraceRow :=
  item.traces.mapIdx fun position trace =>
    { id := readings.evidenceUuid index position
      runItemId := item.row.id
      payload := trace.payload
      createdAt := readings.evidenceCreatedAt index position }

theorem runItemId_of_resultRows {readings : RunReadings} {index : Nat} {item : ItemRecord}
    {row : EvalResultRow} (member : row ∈ resultRows readings index item) :
    row.runItemId = item.row.id := by
  rcases List.mem_mapIdx.mp member with ⟨position, bound, rfl⟩
  rfl

theorem runItemId_of_traceRows {readings : RunReadings} {index : Nat} {item : ItemRecord}
    {row : TraceRow} (member : row ∈ traceRows readings index item) :
    row.runItemId = item.row.id := by
  rcases List.mem_mapIdx.mp member with ⟨position, bound, rfl⟩
  rfl

def ItemRecord.stored (item : ItemRecord) : ItemRecord where
  row := item.row
  results := item.results.map fun result => { result with writtenBy := 0 }

theorem map_mapIdx {Item Row Kind : Type} (insert : Row → Kind) (row : Nat → Item → Row)
    (items : List Item) :
    (items.mapIdx row).map insert = items.mapIdx fun index item => insert (row index item) := by
  rw [List.mapIdx_eq_zipIdx_map, List.mapIdx_eq_zipIdx_map, List.map_map]
  rfl

theorem itemWrites_eq (readings : RunReadings) (index : Nat) (item : ItemRecord) :
    itemWrites readings index item =
      .insertItem item.row :: ((traceRows readings index item).map .insertTrace ++
        (resultRows readings index item).map .insertResult) := by
  rw [itemWrites, traceRows, resultRows, map_mapIdx, map_mapIdx]

section

variable (readings : RunReadings) (items : List ItemRecord)

theorem filterMap_inserts {Row : Type} (row? : Write → Option Row) (insert : Row → Write)
    (each : ∀ row, row? (insert row) = some row) (rows : List Row) :
    (rows.map insert).filterMap row? = rows := by
  have composed : row? ∘ insert = some := funext each
  rw [List.filterMap_map, composed, List.filterMap_some]

theorem filterMap_others {Row Other : Type} (row? : Write → Option Row) (insert : Other → Write)
    (each : ∀ row, row? (insert row) = none) (rows : List Other) :
    (rows.map insert).filterMap row? = [] := by
  rw [List.filterMap_map, List.filterMap_eq_nil_iff]
  exact fun row _ => each row

theorem filterMap_itemWrites {Row : Type} {row? : Write → Option Row}
    {rows : Nat → ItemRecord → List Row}
    (each : ∀ index item, (itemWrites readings index item).filterMap row? = rows index item) :
    ((items.mapIdx (itemWrites readings)).flatten).filterMap row? =
      (items.mapIdx rows).flatten := by
  rw [List.filterMap_flatten, map_mapIdx]
  congr 2
  funext index item
  exact each index item

theorem items_of_writes :
    ((items.mapIdx (itemWrites readings)).flatten).filterMap Write.item? =
      items.map (·.row) := by
  have each : ∀ index item,
      (itemWrites readings index item).filterMap Write.item? = [item.row] := by
    intro index item
    have first (rest : List Write) : (Write.insertItem item.row :: rest).filterMap Write.item? =
        item.row :: rest.filterMap Write.item? := rfl
    rw [itemWrites_eq, first, List.filterMap_append,
      filterMap_others Write.item? Write.insertTrace fun _ => rfl,
      filterMap_others Write.item? Write.insertResult fun _ => rfl, List.append_nil]
  rw [filterMap_itemWrites readings items each]
  clear each
  induction items with
  | nil => rfl
  | cons item items induction =>
      rw [List.mapIdx_cons, List.flatten_cons, List.map_cons]
      exact congrArg (item.row :: ·) induction

theorem traces_of_writes :
    ((items.mapIdx (itemWrites readings)).flatten).filterMap Write.trace? =
      (items.mapIdx (traceRows readings)).flatten := by
  refine filterMap_itemWrites readings items fun index item => ?_
  have first (rest : List Write) : (Write.insertItem item.row :: rest).filterMap Write.trace? =
      rest.filterMap Write.trace? := rfl
  rw [itemWrites_eq, first, List.filterMap_append,
    filterMap_inserts Write.trace? Write.insertTrace fun _ => rfl,
    filterMap_others Write.trace? Write.insertResult fun _ => rfl, List.append_nil]

theorem results_of_writes :
    ((items.mapIdx (itemWrites readings)).flatten).filterMap Write.result? =
      (items.mapIdx (resultRows readings)).flatten := by
  refine filterMap_itemWrites readings items fun index item => ?_
  have first (rest : List Write) : (Write.insertItem item.row :: rest).filterMap Write.result? =
      rest.filterMap Write.result? := rfl
  rw [itemWrites_eq, first, List.filterMap_append,
    filterMap_others Write.result? Write.insertTrace fun _ => rfl,
    filterMap_inserts Write.result? Write.insertResult fun _ => rfl, List.nil_append]

theorem runs_of_writes :
    ((items.mapIdx (itemWrites readings)).flatten).filterMap Write.run? = [] := by
  rw [List.filterMap_eq_nil_iff]
  intro write member
  rcases List.mem_flatten.mp member with ⟨group, groupMember, inGroup⟩
  rcases List.mem_mapIdx.mp groupMember with ⟨index, bound, rfl⟩
  rw [itemWrites_eq, List.mem_cons, List.mem_append] at inGroup
  rcases inGroup with rfl | trace | result
  · rfl
  · rcases List.mem_map.mp trace with ⟨row, -, rfl⟩
    rfl
  · rcases List.mem_map.mp result with ⟨row, -, rfl⟩
    rfl

theorem recordWrites_ofRun (record : RunRecord) :
    ∀ write ∈ record.writes readings, write.ofRun = true := by
  intro write member
  rcases List.mem_cons.mp member with rfl | later
  · rfl
  · rcases List.mem_flatten.mp later with ⟨group, groupMember, inGroup⟩
    rcases List.mem_mapIdx.mp groupMember with ⟨index, bound, rfl⟩
    rw [itemWrites_eq, List.mem_cons, List.mem_append] at inGroup
    rcases inGroup with rfl | trace | result
    · rfl
    · rcases List.mem_map.mp trace with ⟨row, -, rfl⟩
      rfl
    · rcases List.mem_map.mp result with ⟨row, -, rfl⟩
      rfl

theorem withRunRows_record (db : Database) (record : RunRecord) :
    db.withRunRows (record.writes readings) = { db with
      evalRuns := db.evalRuns ++ [{ toEvalRun := record.run, createdAt := readings.createdAt }]
      evalRunItems := db.evalRunItems ++ record.items.map (·.row)
      traces := db.traces ++ (record.items.mapIdx (traceRows readings)).flatten
      evalResults := db.evalResults ++ (record.items.mapIdx (resultRows readings)).flatten } := by
  simp only [Database.withRunRows, RunRecord.writes, List.filterMap_cons, Write.run?, Write.item?,
    Write.trace?, Write.result?, runs_of_writes, items_of_writes, traces_of_writes,
    results_of_writes]

theorem commit_record {db next : Database} {record : RunRecord}
    (committed : db.commit (record.writes readings) = some next) :
    next = { db with
      evalRuns := db.evalRuns ++ [{ toEvalRun := record.run, createdAt := readings.createdAt }]
      evalRunItems := db.evalRunItems ++ record.items.map (·.row)
      traces := db.traces ++ (record.items.mapIdx (traceRows readings)).flatten
      evalResults := db.evalResults ++ (record.items.mapIdx (resultRows readings)).flatten } := by
  rw [commit_ofRun (recordWrites_ofRun readings record) committed, withRunRows_record]

end

/-! ## What is stored of an item -/

def ItemRecord.columns (item : ItemRecord) : ItemRecord where
  row := item.row
  traces := item.traces.map fun trace => { trace with writtenBy := 0 }
  results := item.results.map fun result => { result with writtenBy := 0 }

namespace Database

variable (db : Database)

def storedItem (row : EvalRunItem) : ItemRecord where
  row := row
  traces := (db.traces.filter (·.runItemId == row.id)).map fun trace =>
    { payload := trace.payload, writtenBy := 0 }
  results := (db.resultsOf row.id).map fun result =>
    { toStoredResult := result.toStoredResult, writtenBy := 0 }

def storedItems (runId : String) : List ItemRecord := (db.itemsOf runId).map db.storedItem

theorem rows_storedItems (runId : String) :
    (db.storedItems runId).map (·.row) = db.itemsOf runId := by
  rw [storedItems, List.map_map]
  exact List.map_id _

theorem itemsOf_of_storedItems {db : Database} {runId : String} {items : List ItemRecord}
    (stored : db.storedItems runId = items.map (·.columns)) :
    db.itemsOf runId = items.map (·.row) := by
  rw [← rows_storedItems, stored, List.map_map]
  rfl

theorem storedItem_of_storedItems {db : Database} {runId : String} {items : List ItemRecord}
    (stored : db.storedItems runId = items.map (·.columns)) :
    ∀ item ∈ items, db.storedItem item.row = item.columns := by
  have rows := itemsOf_of_storedItems stored
  rw [storedItems, rows, List.map_map] at stored
  exact List.map_inj_left.mp stored

theorem itemRecords_eq_map (runId : String) :
    db.itemRecords runId =
      (db.storedItems runId).map fun item => { item with traces := [] } := by
  rw [itemRecords, storedItems, List.map_map]
  rfl

theorem itemRecords_of_storedItems {db : Database} {runId : String} {items : List ItemRecord}
    (stored : db.storedItems runId = items.map (·.columns)) :
    db.itemRecords runId = items.map (·.stored) := by
  rw [itemRecords_eq_map, stored, List.map_map]
  rfl

end Database

/-! ## What is read back -/

structure Database.SameStoredRun (db next : Database) (runId : String) : Prop where
  run : next.run? runId = db.run? runId
  items : next.storedItems runId = db.storedItems runId

/-- The rows of a run as its executor has left them, among those that were there. -/
structure StoredRun (readings : RunReadings) (record : RunRecord) (db next : Database) :
    Prop where
  run : next.run? record.run.id =
    some { toEvalRun := record.run, createdAt := readings.createdAt }
  items : next.storedItems record.run.id = record.items.map (·.columns)
  others : ∀ runId, runId ≠ record.run.id → db.SameStoredRun next runId

theorem mapIdx_const {Row Kind : Type} (change : Row → Kind) (rows : List Row) :
    (rows.mapIdx fun _ row => change row) = rows.map change := by
  induction rows with
  | nil => rfl
  | cons row rows induction =>
      rw [List.mapIdx_cons, List.map_cons]
      exact congrArg (change row :: ·) induction

theorem recorded_resultRows (readings : RunReadings) (index : Nat) (item : ItemRecord) :
    ((resultRows readings index item).map fun result =>
      ({ toStoredResult := result.toStoredResult, writtenBy := 0 } : EvalResult)) =
      item.columns.results := by
  rw [resultRows, map_mapIdx]
  exact mapIdx_const (fun result : EvalResult => { result with writtenBy := 0 }) item.results

theorem recorded_traceRows (readings : RunReadings) (index : Nat) (item : ItemRecord) :
    ((traceRows readings index item).map fun trace =>
      ({ payload := trace.payload, writtenBy := 0 } : Trace)) = item.columns.traces := by
  rw [traceRows, map_mapIdx]
  exact mapIdx_const (fun trace : Trace => { trace with writtenBy := 0 }) item.traces

section

variable {readings : RunReadings} {record : RunRecord} {db next : Database}
variable (consistent : db.Consistent) (nextConsistent : next.Consistent)
variable (committed : db.commit (record.writes readings) = some next)

include nextConsistent committed

theorem newRun_apart : ∀ run ∈ db.evalRuns, run.id ≠ record.run.id := by
  have keyed := nextConsistent.keyed.evalRuns
  rw [commit_record readings committed] at keyed
  intro run member same
  have free := (List.pairwise_append.mp keyed).2.2 run member _ List.mem_cons_self
  rw [EvalRunRow.conflicts, beq_eq_false_iff_ne] at free
  exact free same.symm

theorem newItems_apart :
    (record.items.map (·.row.id)).Nodup ∧
      ∀ item ∈ record.items, db.hasItem item.row.id = false := by
  have keyed := nextConsistent.keyed.evalRunItems
  rw [commit_record readings committed] at keyed
  rcases List.pairwise_append.mp keyed with ⟨-, added, apart⟩
  constructor
  · rw [List.Nodup, List.pairwise_map]
    rw [List.pairwise_map] at added
    refine added.imp fun free same => ?_
    rw [EvalRunItem.conflicts, same, beq_self_eq_true, Bool.true_or] at free
    cases free
  · intro item member
    rw [Database.hasItem, List.any_eq_false]
    intro stored storedMember same
    have free := apart stored storedMember item.row (List.mem_map_of_mem member)
    rw [EvalRunItem.conflicts, beq_iff_eq.mp same, beq_self_eq_true, Bool.true_or] at free
    cases free

include consistent

theorem oldItems_apart : ∀ item ∈ db.evalRunItems, item.runId ≠ record.run.id := by
  intro item member same
  rcases consistent.refer.evalRunItems item member with ⟨run, found, -⟩
  have selected := List.find?_some found
  exact newRun_apart nextConsistent committed run (List.mem_of_find?_eq_some found)
    ((beq_iff_eq.mp selected).trans same)

omit consistent in
theorem filter_evidence_new {Row : Type} {itemOf : Row → String} {table : List Row}
    {rows : Nat → ItemRecord → List Row}
    (refer : ∀ row ∈ table, db.hasItem (itemOf row) = true)
    (ofItem : ∀ index item, ∀ row ∈ rows index item, itemOf row = item.row.id)
    {index : Nat} {item : ItemRecord} (held : record.items[index]? = some item) :
    (table ++ (record.items.mapIdx rows).flatten).filter (itemOf · == item.row.id) =
      rows index item := by
  rcases newItems_apart nextConsistent committed with ⟨distinct, fresh⟩
  have old : table.filter (itemOf · == item.row.id) = [] := by
    rw [List.filter_eq_nil_iff]
    intro row member same
    have stored := refer row member
    rw [beq_iff_eq.mp same, fresh item (List.mem_of_getElem? held)] at stored
    cases stored
  have own := filter_flatten_mapIdx (fun index item (_ : item ∈ record.items) => ofItem index item)
    distinct held
  rw [List.filter_append, old, List.nil_append, own]

theorem itemsOf_new (ofRun : ∀ item ∈ record.items, item.row.runId = record.run.id) :
    next.itemsOf record.run.id = record.items.map (·.row) := by
  have old : db.evalRunItems.filter (·.runId == record.run.id) = [] := by
    rw [List.filter_eq_nil_iff]
    intro item member same
    exact oldItems_apart consistent nextConsistent committed item member (beq_iff_eq.mp same)
  rw [commit_record readings committed, Database.itemsOf, List.filter_append, old,
    List.nil_append, List.filter_eq_self]
  intro row member
  rcases List.mem_map.mp member with ⟨item, itemMember, rfl⟩
  rw [ofRun item itemMember, beq_self_eq_true]

theorem storedItems_new (ofRun : ∀ item ∈ record.items, item.row.runId = record.run.id) :
    next.storedItems record.run.id = record.items.map (·.columns) := by
  rw [Database.storedItems, itemsOf_new consistent nextConsistent committed ofRun, List.map_map]
  refine List.map_congr_left fun item member => ?_
  rcases List.getElem?_of_mem member with ⟨index, held⟩
  have traces := filter_evidence_new nextConsistent committed consistent.refer.traces
    (fun index item _ => @runItemId_of_traceRows readings index item _) held
  have results := filter_evidence_new nextConsistent committed consistent.refer.evalResults
    (fun index item _ => @runItemId_of_resultRows readings index item _) held
  rw [Function.comp_apply, commit_record readings committed]
  simp only [Database.storedItem, Database.resultsOf, traces, results, recorded_traceRows,
    recorded_resultRows]
  rfl

omit consistent in
theorem storedItems_old (ofRun : ∀ item ∈ record.items, item.row.runId = record.run.id)
    {runId : String} (other : runId ≠ record.run.id) :
    next.storedItems runId = db.storedItems runId := by
  rcases newItems_apart nextConsistent committed with ⟨-, fresh⟩
  have items : next.itemsOf runId = db.itemsOf runId := by
    have added : (record.items.map (·.row)).filter (·.runId == runId) = [] := by
      rw [List.filter_eq_nil_iff]
      intro row member same
      rcases List.mem_map.mp member with ⟨item, itemMember, rfl⟩
      exact other ((beq_iff_eq.mp same).symm.trans (ofRun item itemMember))
    rw [commit_record readings committed, Database.itemsOf, Database.itemsOf, List.filter_append,
      added, List.append_nil]
  rw [Database.storedItems, Database.storedItems, items]
  refine List.map_congr_left fun row member => ?_
  have apart : ∀ item ∈ record.items, item.row.id ≠ row.id := by
    intro item itemMember same
    have absent := fresh item itemMember
    rw [Database.hasItem, List.any_eq_false] at absent
    exact absent row (List.mem_filter.mp member).1 (beq_iff_eq.mpr same.symm)
  have traces := filter_flatten_mapIdx_of_absent (fun index item (_ : item ∈ record.items) _ =>
    @runItemId_of_traceRows readings index item _) apart
  have results := filter_flatten_mapIdx_of_absent (fun index item (_ : item ∈ record.items) _ =>
    @runItemId_of_resultRows readings index item _) apart
  rw [commit_record readings committed]
  simp only [Database.storedItem, Database.resultsOf, List.filter_append, traces, results,
    List.append_nil]

theorem storedRun (ofRun : ∀ item ∈ record.items, item.row.runId = record.run.id) :
    StoredRun readings record db next where
  run := by
    have apart := newRun_apart nextConsistent committed
    rw [commit_record readings committed]
    exact find?_append_new (beq_self_eq_true _) fun run member =>
      beq_eq_false_iff_ne.mpr (apart run member)
  items := storedItems_new consistent nextConsistent committed ofRun
  others runId other := by
    refine ⟨?_, storedItems_old nextConsistent committed ofRun other⟩
    have added : (record.run.id == runId) = false := beq_eq_false_iff_ne.mpr other.symm
    rw [commit_record readings committed, Database.run?, Database.run?, List.find?_append,
      List.find?_cons_of_neg (by simp [added]), List.find?_nil, Option.or_none]

end

/-! ## What the metrics read -/

theorem collectItem_stored (samples : MetricSamples) (item : ItemRecord) :
    collectItem samples item.stored = collectItem samples item := by
  have passed : item.stored.casePassed = item.casePassed := by
    simp only [ItemRecord.casePassed, ItemRecord.stored, List.filter_map, List.isEmpty_map,
      List.any_map, List.all_map, Function.comp_def]
  simp only [collectItem, passed]
  rw [ItemRecord.stored, List.foldl_map]
  rfl

theorem collectRunMetricSamples_stored (items : List ItemRecord) :
    collectRunMetricSamples (items.map (·.stored)) = collectRunMetricSamples items := by
  have sorted := List.map_insertionSort
    (fun left right : ItemRecord => left.row.caseId ≤ right.row.caseId)
    (fun left right : ItemRecord => left.row.caseId ≤ right.row.caseId)
    ItemRecord.stored items fun _ _ _ _ => Iff.rfl
  rw [collectRunMetricSamples, ← sorted, List.foldl_map]
  simp only [collectItem_stored]
  rfl

/-! ## Answered requests for a run -/

section

variable {env : Environment} {inputs : ExecutionInputs} {request : RunRequest}
variable {record : RunRecord}

theorem executeCase_traces {inputs : ExecutionInputs} {plan : RunPlan} {adapter : Adapter}
    {runId : String} {index : Nat} {case : EvalCase} {item : ItemRecord}
    (executed : (executeCase env inputs plan adapter runId index case).item.flush env.storesJson =
      some item) : item.traces = [] ∨ ∃ trace, item.traces = [trace] := by
  rw [(SessionItem.flush_some executed).2.traces]
  cases (executeCase env inputs plan adapter runId index case).item.trace with
  | none => exact .inl rfl
  | some payload => exact .inr ⟨_, rfl⟩

theorem executeRun_items (executed : executeRun env inputs request = .ok record) :
    ∀ item ∈ record.items, item.row.runId = record.run.id ∧
      (item.traces = [] ∨ ∃ trace, item.traces = [trace]) := by
  rcases executeRun_ok executed with ⟨plan, adapter, -, -, items, completed, errored, ran, rfl⟩
  intro item member
  rcases forall₂_exists_left (executeCases_ok ran) item member with ⟨case, -, index, flushed⟩
  exact ⟨(executeCase_row flushed).2.1, executeCase_traces flushed⟩

/-- What an answered request for a run has left: the rows of the record that the
executor returned, which the endpoints and the metrics read. -/
structure ExecutedAnswer (env : Environment) (readings : RunReadings) (principal : Principal)
    (payload : RunCreate) (db next : Database) (answer : RunRead) (record : RunRecord) :
    Prop where
  executed : executeRun env readings.execution
    (runRequest db principal.organizationId payload) = .ok record
  answered : answer.id = record.run.id ∧ getRun next principal record.run.id = .ok answer
  stored : StoredRun readings record db next
  traced : ∀ item ∈ record.items, ∀ trace ∈ item.traces,
    (getTrace next principal record.run.id item.row.caseId).map (·.payload) = .ok trace.payload
  sampled : collectRunMetricSamples (next.itemRecords record.run.id) =
    collectRunMetricSamples record.items

section

variable {db next : Database} {readings : RunReadings} {principal : Principal}
variable {payload : RunCreate} {answer : RunRead}

theorem tenantRun_of_run? (consistent : db.Consistent) {runId : String} {run : EvalRunRow}
    (found : db.run? runId = some run) :
    db.tenantRun run.organizationId runId = some run := by
  have selected := List.find?_some found
  refine consistent.keyed.evalRuns.find?_eq_some (List.mem_of_find?_eq_some found) ?_ ?_
  · rw [selected, beq_self_eq_true, Bool.and_true]
  · intro stored same
    simp [EvalRunRow.conflicts, beq_iff_eq.mp (Bool.and_eq_true_iff.mp same).1,
      beq_iff_eq.mp selected]

theorem getTrace_of_storedItems (consistent : db.Consistent) {run : EvalRunRow}
    (found : db.tenantRun principal.organizationId run.id = some run) {items : List ItemRecord}
    (stored : db.storedItems run.id = items.map (·.columns)) {item : ItemRecord}
    (member : item ∈ items) {trace : Trace} (traced : item.traces = [trace]) :
    (getTrace db principal run.id item.row.caseId).map (·.payload) = .ok trace.payload := by
  have rowMember : item.row ∈ db.itemsOf run.id := by
    rw [Database.itemsOf_of_storedItems stored]
    exact List.mem_map_of_mem member
  rcases List.mem_filter.mp rowMember with ⟨rowStored, ofRun⟩
  have row : (db.itemsOf run.id).find? (·.caseId == item.row.caseId) = some item.row := by
    rw [Database.itemsOf, List.find?_filter]
    refine consistent.keyed.evalRunItems.find?_eq_some rowStored ?_ ?_
    · simp [beq_iff_eq.mp ofRun]
    · intro other selected
      simp only [Bool.decide_and, Bool.and_eq_true, beq_iff_eq, decide_eq_true_eq] at selected
      simp [EvalRunItem.conflicts, selected.1, selected.2, beq_iff_eq.mp ofRun]
  have traces := congrArg ItemRecord.traces (Database.storedItem_of_storedItems stored item member)
  simp only [Database.storedItem, ItemRecord.columns, traced, List.map_cons, List.map_nil] at traces
  rcases List.map_eq_singleton_iff.mp traces with ⟨traceRow, only, same⟩
  have payload : traceRow.payload = trace.payload := congrArg Trace.payload same
  have traceOf : db.traceOf item.row.id = some traceRow := by
    rw [Database.traceOf, ← List.head?_filter, only]
    rfl
  rw [getTrace, tenantRunOr404, found]
  simp only [row, traceOf, bind, Except.bind]
  exact congrArg Except.ok payload

theorem createRun_stored {runMode : String} (sync : runMode ≠ "celery")
    (consistent : db.Consistent) (nextConsistent : next.Consistent)
    (created : (createRun runMode env readings db principal payload).answer = .ok answer)
    (committed :
      db.commit (createRun runMode env readings db principal payload).writes = some next) :
    ∃ record, ExecutedAnswer env readings principal payload db next answer record := by
  unfold createRun at created committed
  cases allowed : requireRole principal .evaluator with
  | error error =>
      rw [allowed] at created
      cases created
  | ok value =>
      simp only [allowed, if_neg sync, createSyncRun] at created committed
      cases executed : executeRun env readings.execution
          (runRequest db principal.organizationId payload) with
      | error error =>
          simp only [executed] at created
          cases created
      | ok record =>
          simp only [executed] at created committed
          cases created
          have items := executeRun_items executed
          have own : record.run.organizationId = principal.organizationId := by
            rcases executeRun_ok executed with ⟨plan, adapter, -, -, _, _, _, -, rfl⟩
            rfl
          have stored := storedRun consistent nextConsistent committed
            fun item member => (items item member).1
          have found := tenantRun_of_run? nextConsistent stored.run
          rw [own] at found
          refine ⟨record, executed, ⟨rfl, ?_⟩, stored, ?_, ?_⟩
          · rw [getRun, tenantRunOr404, found]
            rfl
          · intro item member trace traceMember
            rcases (items item member).2 with untraced | ⟨only, traced⟩
            · rw [untraced] at traceMember
              cases traceMember
            · rw [traced, List.mem_singleton] at traceMember
              subst traceMember
              exact @getTrace_of_storedItems next principal nextConsistent
                { toEvalRun := record.run, createdAt := readings.createdAt } found record.items
                stored.items item member _ traced
          · rw [Database.itemRecords_of_storedItems stored.items, collectRunMetricSamples_stored]

end

end

namespace Scenario

def candidateState : Database := stateAfter (devEvents.take 6)

def candidatePayload : RunCreate where
  appVersionId := "version-0"
  suiteId := "suite-0"
  evaluatorConfigId := "config-0"

def candidateCall : Call := namedCall "candidate" {} (.tenant (.createRun candidatePayload))

end Scenario

end EvalForge
