import EvalForge.Api.Pagination
import EvalForge.Api.StoredRuns

/-! # Runs that are committed

When the ids of a run are new, no statement of its transaction is refused.
-/

namespace EvalForge

open Foundation

/-! ## Transactions that append -/

/-- The foreign keys of a statement. -/
def Write.referenced (db : Database) : Write → Bool
  | .insertRun row =>
      db.hasOrganization row.organizationId && db.hasVersion row.appVersionId &&
        db.hasSuite row.suiteId && db.hasEvaluatorConfig row.evaluatorConfigId
  | .insertItem row => db.hasRun row.runId && db.hasCase row.caseId
  | .insertTrace row => db.hasItem row.runItemId
  | .insertResult row => db.hasItem row.runItemId
  | _ => false

/-- Every statement refers to rows that are there when it is executed. -/
def Database.Referenced (db : Database) : List Write → Prop
  | [] => True
  | write :: writes =>
      write.referenced db = true ∧ (db.withRunRows [write]).Referenced writes

structure Database.RunTablesKeyed (db : Database) : Prop where
  evalRuns : Keyed EvalRunRow.conflicts db.evalRuns
  evalRunItems : Keyed EvalRunItem.conflicts db.evalRunItems
  traces : Keyed TraceRow.conflicts db.traces
  evalResults : Keyed EvalResultRow.conflicts db.evalResults

theorem free_of_keyed {Row : Type} {conflicts : Row → Row → Bool} {table rest : List Row}
    {row : Row} (keyed : Keyed conflicts (table ++ row :: rest)) :
    ∀ stored ∈ table, conflicts row stored = false :=
  fun stored member => (List.pairwise_append.mp keyed).2.2 stored member row List.mem_cons_self

section

variable {db : Database}

theorem applied_of_free {Row : Type} {conflicts : Row → Row → Bool} {row : Row} {table : List Row}
    {referenced : Bool} (set : List Row → Database) (there : referenced = true)
    (free : ∀ stored ∈ table, conflicts row stored = false) :
    ((insertReferencing referenced conflicts row table).bind fun table => some (set table)) =
      some (set (table ++ [row])) := by
  rw [insertReferencing_eq_some_iff.mpr ⟨there, free, rfl⟩]
  rfl

theorem apply_of_keyed {write : Write} {writes : List Write} (ofRun : write.ofRun = true)
    (referenced : write.referenced db = true)
    (keyed : (db.withRunRows (write :: writes)).RunTablesKeyed) :
    db.apply write = some (db.withRunRows [write]) := by
  cases write with
  | insertRun row =>
      have applied := applied_of_free (fun evalRuns => { db with evalRuns }) referenced
        (free_of_keyed keyed.evalRuns)
      refine applied.trans ?_
      simp [Database.withRunRows, Write.run?, Write.item?, Write.trace?, Write.result?]
  | insertItem row =>
      have applied := applied_of_free (fun evalRunItems => { db with evalRunItems }) referenced
        (free_of_keyed keyed.evalRunItems)
      refine applied.trans ?_
      simp [Database.withRunRows, Write.run?, Write.item?, Write.trace?, Write.result?]
  | insertTrace row =>
      have applied := applied_of_free (fun traces => { db with traces }) referenced
        (free_of_keyed keyed.traces)
      refine applied.trans ?_
      simp [Database.withRunRows, Write.run?, Write.item?, Write.trace?, Write.result?]
  | insertResult row =>
      have applied := applied_of_free (fun evalResults => { db with evalResults }) referenced
        (free_of_keyed keyed.evalResults)
      refine applied.trans ?_
      simp [Database.withRunRows, Write.run?, Write.item?, Write.trace?, Write.result?]
  | _ => cases ofRun

theorem commit_of_keyed {writes : List Write} (ofRun : ∀ write ∈ writes, write.ofRun = true)
    (referenced : db.Referenced writes) (keyed : (db.withRunRows writes).RunTablesKeyed) :
    db.commit writes = some (db.withRunRows writes) := by
  induction writes generalizing db with
  | nil => simp [Database.commit, Database.withRunRows]
  | cons write writes induction =>
      have applied := apply_of_keyed (ofRun write List.mem_cons_self) referenced.1 keyed
      rw [← withRunRows_cons] at keyed
      have rest := induction (fun other member => ofRun other (List.mem_cons_of_mem write member))
        referenced.2 keyed
      rw [withRunRows_cons] at rest
      rw [Database.commit, applied]
      exact rest

/-! ## The references of a run -/

theorem any_append_of_left {Row : Type} {table rows : List Row} {selected : Row → Bool}
    (found : table.any selected = true) : (table ++ rows).any selected = true := by
  rw [List.any_append, found, Bool.true_or]

theorem referenced_evidence {itemId : String} {writes : List Write}
    (stored : db.hasItem itemId = true) (evidences : ∀ write ∈ writes, write.Evidences itemId) :
    db.Referenced writes := by
  induction writes generalizing db with
  | nil => trivial
  | cons write writes induction =>
      have evidence := evidences write List.mem_cons_self
      have rest := fun other member => evidences other (List.mem_cons_of_mem write member)
      refine ⟨?_, induction (any_append_of_left stored) rest⟩
      cases write with
      | insertTrace row =>
          have ofItem : row.runItemId = itemId := evidence
          rw [← ofItem] at stored
          exact stored
      | insertResult row =>
          have ofItem : row.runItemId = itemId := evidence
          rw [← ofItem] at stored
          exact stored
      | _ => exact evidence.elim

theorem referenced_append {first second : List Write} (before : db.Referenced first)
    (after : (db.withRunRows first).Referenced second) : db.Referenced (first ++ second) := by
  induction first generalizing db with
  | nil =>
      simp only [Database.withRunRows, List.filterMap_nil, List.append_nil] at after
      exact after
  | cons write first induction =>
      rw [← withRunRows_cons] at after
      exact ⟨before.1, induction before.2 after⟩

theorem referenced_groups {runId : String} {cases : List EvalCase} {issued : String → Prop}
    {groups : List (List Write)} (run : db.hasRun runId = true)
    (stored : ∀ case ∈ cases, db.hasCase case.id = true)
    (items : ∀ group ∈ groups, ItemGroup runId cases issued group) :
    db.Referenced groups.flatten := by
  induction groups generalizing db with
  | nil => trivial
  | cons group groups induction =>
      rcases (items group List.mem_cons_self).inserts with
        ⟨row, evidence, rfl, ofRun, ⟨case, caseMember, ofCase⟩, evidences⟩
      rw [List.flatten_cons]
      refine referenced_append ⟨?_, ?_⟩ (induction (any_append_of_left run) stored ?_)
      · rw [Write.referenced, ofRun, ofCase, run, stored case caseMember, Bool.and_self]
      · refine referenced_evidence ?_ evidences
        rw [Database.hasItem, List.any_eq_true]
        exact ⟨row, List.mem_append_right _ List.mem_cons_self, beq_self_eq_true row.id⟩
      · exact fun other member => items other (List.mem_cons_of_mem _ member)

end

/-! ## The keys of a run -/

structure NewRunIds (readings : RunReadings) (db : Database) : Prop where
  ids : Function.Injective readings.execution.newUuid
  run : ∀ stored ∈ db.evalRuns, stored.id ≠ readings.execution.newUuid 0
  items : ∀ stored ∈ db.evalRunItems, ∀ index, stored.id ≠ readings.execution.newUuid index
  evidence : ∀ index other position otherPosition,
    readings.evidenceUuid index position = readings.evidenceUuid other otherPosition →
      index = other ∧ position = otherPosition
  traces : ∀ stored ∈ db.traces, ∀ index position,
    stored.id ≠ readings.evidenceUuid index position
  evalResults : ∀ stored ∈ db.evalResults, ∀ index position,
    stored.id ≠ readings.evidenceUuid index position

theorem keyed_flatten_mapIdx {Item Row : Type} {conflicts : Row → Row → Bool}
    {rows : Nat → Item → List Row} {items : List Item}
    (each : ∀ index, ∀ item ∈ items, Keyed conflicts (rows index item))
    (apart : ∀ index other item otherItem, items[index]? = some item →
      items[other]? = some otherItem → index < other →
      ∀ stored ∈ rows index item, ∀ row ∈ rows other otherItem, conflicts row stored = false) :
    Keyed conflicts (items.mapIdx rows).flatten := by
  rw [Keyed, List.pairwise_flatten]
  constructor
  · intro group member
    rcases List.mem_mapIdx.mp member with ⟨index, bound, rfl⟩
    exact each index _ (List.getElem_mem bound)
  · rw [List.pairwise_iff_getElem]
    intro index other bound otherBound before stored storedMember row member
    rw [List.length_mapIdx] at bound otherBound
    rw [List.getElem_mapIdx] at storedMember member
    exact apart index other _ _ (List.getElem?_eq_getElem bound)
      (List.getElem?_eq_getElem otherBound) before stored storedMember row member

section

variable {readings : RunReadings} {db : Database} {items : List ItemRecord}

def ItemsIssued (readings : RunReadings) (items : List ItemRecord) : Prop :=
  ∀ index item, items[index]? = some item →
    item.row.id = readings.execution.newUuid (index + 1)

variable (fresh : NewRunIds readings db) (issued : ItemsIssued readings items)

include fresh issued

theorem itemIds_apart {index other : Nat} {item otherItem : ItemRecord}
    (held : items[index]? = some item) (otherHeld : items[other]? = some otherItem)
    (before : index < other) : item.row.id ≠ otherItem.row.id := by
  rw [issued index item held, issued other otherItem otherHeld]
  intro same
  have equal := fresh.ids same
  omega

omit issued in
theorem evidenceIds_apart {index other position otherPosition : Nat} (apart : index ≠ other) :
    (readings.evidenceUuid other otherPosition == readings.evidenceUuid index position) = false :=
  beq_eq_false_iff_ne.mpr fun same => apart (fresh.evidence _ _ _ _ same).1.symm

theorem traceRows_keyed
    (single : ∀ item ∈ items, item.traces = [] ∨ ∃ trace, item.traces = [trace]) :
    Keyed TraceRow.conflicts (items.mapIdx (traceRows readings)).flatten := by
  refine keyed_flatten_mapIdx ?_ ?_
  · intro index item member
    rcases single item member with untraced | ⟨trace, traced⟩
    · rw [traceRows, untraced]
      exact List.Pairwise.nil
    · rw [traceRows, traced]
      exact List.pairwise_singleton _ _
  · intro index other item otherItem held otherHeld before stored storedMember row member
    have apart := itemIds_apart fresh issued held otherHeld before
    rcases List.mem_mapIdx.mp storedMember with ⟨position, bound, rfl⟩
    rcases List.mem_mapIdx.mp member with ⟨otherPosition, otherBound, rfl⟩
    simp only [TraceRow.conflicts, evidenceIds_apart fresh before.ne, Bool.false_or,
      beq_eq_false_iff_ne]
    exact apart.symm

theorem resultRows_keyed
    (distinct : ∀ item ∈ items, (item.results.map (·.evaluatorName)).Nodup) :
    Keyed EvalResultRow.conflicts (items.mapIdx (resultRows readings)).flatten := by
  refine keyed_flatten_mapIdx ?_ ?_
  · intro index item member
    have names := List.pairwise_map.mp (distinct item member)
    rw [List.pairwise_iff_getElem] at names
    rw [Keyed, resultRows, List.pairwise_iff_getElem]
    intro position other bound otherBound before
    rw [List.length_mapIdx] at bound otherBound
    have ids : readings.evidenceUuid index (item.traces.length + other) ≠
        readings.evidenceUuid index (item.traces.length + position) := by
      intro same
      have equal := (fresh.evidence _ _ _ _ same).2
      omega
    simp only [List.getElem_mapIdx, EvalResultRow.conflicts, Bool.or_eq_false_iff,
      Bool.and_eq_false_iff, beq_eq_false_iff_ne]
    exact ⟨ids, .inr (names position other bound otherBound before).symm⟩
  · intro index other item otherItem held otherHeld before stored storedMember row member
    have apart := itemIds_apart fresh issued held otherHeld before
    rcases List.mem_mapIdx.mp storedMember with ⟨position, bound, rfl⟩
    rcases List.mem_mapIdx.mp member with ⟨otherPosition, otherBound, rfl⟩
    simp only [EvalResultRow.conflicts, evidenceIds_apart fresh before.ne, Bool.false_or,
      Bool.and_eq_false_iff, beq_eq_false_iff_ne]
    exact .inl apart.symm

end

/-! ## The run of an executor -/

section

variable {env : Environment} {inputs : ExecutionInputs} {plan : RunPlan} {adapter : Adapter}
variable {runId : String}

theorem executeCases_mapIdx {cases : List EvalCase} {start completed errored : Nat}
    {items : List ItemRecord} {counts : Nat × Nat}
    (executed : executeCases env inputs plan adapter runId start completed errored cases =
      .ok (items, counts)) :
    cases.mapIdx (fun index case =>
      (executeCase env inputs plan adapter runId (start + index) case).item.flush
        env.storesJson) = items.map some := by
  induction cases generalizing start completed errored items counts with
  | nil =>
      cases executed
      rfl
  | cons case cases induction =>
      rw [executeCases] at executed
      simp only [] at executed
      split at executed
      · cases executed
      · next item flushed =>
          cases rest : executeCases env inputs plan adapter runId (start + 1)
              (completed + (executeCase env inputs plan adapter runId start case).completed)
              (errored + (executeCase env inputs plan adapter runId start case).errored) cases with
          | error refused => simp [rest, bind, Except.bind] at executed
          | ok result =>
              simp only [rest, bind, Except.bind, pure, Except.pure] at executed
              cases executed
              rw [List.mapIdx_cons, List.map_cons, ← induction rest]
              simp only [Nat.add_zero, flushed, Nat.add_assoc, Nat.add_comm 1]

theorem executeCases_getElem? {cases : List EvalCase} {start completed errored : Nat}
    {items : List ItemRecord} {counts : Nat × Nat}
    (executed : executeCases env inputs plan adapter runId start completed errored cases =
      .ok (items, counts)) {index : Nat} {item : ItemRecord} (held : items[index]? = some item) :
    ∃ case ∈ cases, (executeCase env inputs plan adapter runId (start + index) case).item.flush
      env.storesJson = some item := by
  have position : (items.map some)[index]? = some (some item) := by
    rw [List.getElem?_map, held, Option.map_some]
  rw [← executeCases_mapIdx executed, List.getElem?_mapIdx] at position
  rcases Option.map_eq_some_iff.mp position with ⟨case, found, flushed⟩
  exact ⟨case, List.mem_of_getElem? found, flushed⟩

end

/-! ## The evidence tables -/

structure Database.EvidenceKeyed (db : Database) : Prop where
  traces : Keyed TraceRow.conflicts db.traces
  evalResults : Keyed EvalResultRow.conflicts db.evalResults

namespace Database

theorem EvidenceKeyed.apply {db next : Database} {write : Write} (keyed : db.EvidenceKeyed)
    (applied : db.apply write = some next) : next.EvidenceKeyed := by
  cases write with
  | insertTrace row =>
      rcases apply_insertTrace applied with ⟨-, free, rfl⟩
      exact { keyed with traces := keyed.traces.insert free }
  | insertResult row =>
      rcases apply_insertResult applied with ⟨-, free, rfl⟩
      exact { keyed with evalResults := keyed.evalResults.insert free }
  | deleteEvidence itemId =>
      cases applied
      exact ⟨keyed.traces.filter _, keyed.evalResults.filter _⟩
  | insertLinkedCase row link =>
      rcases apply_insertLinkedCase applied with ⟨-, -, -, rfl⟩
      exact { keyed with }
  | _ => first
    | cases applied; exact { keyed with }
    | rcases Option.bind_eq_some_iff.mp applied with ⟨table, -, insertion⟩
      cases insertion
      exact { keyed with }

theorem EvidenceKeyed.commit {db next : Database} {writes : List Write} (keyed : db.EvidenceKeyed)
    (committed : db.commit writes = some next) : next.EvidenceKeyed :=
  commit_keeps EvidenceKeyed (fun _ => True) (fun _ _ _ _ kept applied => kept.apply applied)
    (fun _ _ => trivial) keyed committed

theorem Reachable.evidenceKeyed {db : Database} (reachable : db.Reachable) : db.EvidenceKeyed :=
  reachable.keeps EvidenceKeyed (fun keyed => keyed.commit) fun _ => ⟨keyed_nil, keyed_nil⟩

end Database

/-! ## The whole transaction -/

section

variable {env : Environment} {readings : RunReadings} {db : Database} {organizationId : String}
variable {payload : RunCreate} {plan : RunPlan} {record : RunRecord}

theorem plan_cases (listed : db.ListedKeyed)
    (checked : (runRequest db organizationId payload).check = .ok plan) :
    (plan.cases.map (·.id)).Nodup ∧ ∀ case ∈ plan.cases, db.hasCase case.id = true := by
  rcases RunRequest.check_ok checked with ⟨-, -, -, -, loaded, -⟩
  have selected : plan.cases.Sublist (runRequest db organizationId payload).suiteCases := by
    rw [loaded]
    unfold loadSuiteCases
    split
    · exact List.Sublist.refl _
    · exact List.filter_sublist
  have ordered : (byCreation (·.createdAt) (db.casesOf payload.suiteId)).Perm
      (db.casesOf payload.suiteId) := List.perm_insertionSort _ _
  constructor
  · refine List.Nodup.sublist (selected.map _) ?_
    have ids := (ordered.map (·.id)).nodup_iff.mpr (listed.nodup_casesOf payload.suiteId)
    rw [runRequest, List.map_map]
    exact ids
  · intro case member
    rcases List.mem_map.mp (selected.subset member) with ⟨row, rowMember, rfl⟩
    have stored := (List.mem_filter.mp (ordered.mem_iff.mp rowMember)).1
    exact List.any_eq_true.mpr ⟨row, stored, beq_self_eq_true row.id⟩

theorem plannedRun_referenced (consistent : db.Consistent)
    (organization : db.hasOrganization organizationId = true)
    (checked : (runRequest db organizationId payload).check = .ok plan) {run : EvalRunRow}
    (planned : PlannedRun organizationId plan run) :
    (Write.insertRun run).referenced db = true := by
  rcases planned.consistent consistent checked with
    ⟨version, suite, app, config, versioned, suited, configured, -⟩
  have version : db.hasVersion run.appVersionId = true := any_of_find? versioned
  have suite : db.hasSuite run.suiteId = true := any_of_find? suited
  have config : db.hasEvaluatorConfig run.evaluatorConfigId = true := any_of_find? configured
  rw [Write.referenced, planned.organization, organization, version, suite, config]
  rfl

end

section

variable {readings : RunReadings} {db : Database} {record : RunRecord}

theorem runTablesKeyed (consistent : db.Consistent) (evidence : db.EvidenceKeyed)
    (fresh : NewRunIds readings db) (issuedRun : record.run.id = readings.execution.newUuid 0)
    (issued : ItemsIssued readings record.items)
    (items : ∀ item ∈ record.items, item.row.runId = record.run.id ∧
      (item.traces = [] ∨ ∃ trace, item.traces = [trace]))
    (distinct : ∀ item ∈ record.items, (item.results.map (·.evaluatorName)).Nodup)
    (caseIds : (record.items.map (·.row.caseId)).Nodup) :
    (db.withRunRows (record.writes readings)).RunTablesKeyed := by
  have newItem : ∀ {item}, item ∈ record.items → ∀ stored ∈ db.evalRunItems,
      stored.id ≠ item.row.id := by
    intro item member stored storedMember
    rcases List.getElem?_of_mem member with ⟨index, held⟩
    rw [issued index item held]
    exact fresh.items stored storedMember _
  have unused : ∀ {item itemId}, item ∈ record.items → db.hasItem itemId = true →
      item.row.id ≠ itemId := by
    intro item itemId member present same
    rcases List.any_eq_true.mp present with ⟨stored, storedMember, equal⟩
    exact newItem member stored storedMember ((beq_iff_eq.mp equal).trans same.symm)
  rw [withRunRows_record]
  constructor
  · refine consistent.keyed.evalRuns.insert fun stored member => ?_
    rw [EvalRunRow.conflicts, beq_eq_false_iff_ne, issuedRun]
    exact (fresh.run stored member).symm
  · refine List.pairwise_append.mpr ⟨consistent.keyed.evalRunItems, ?_, ?_⟩
    · rw [List.pairwise_map]
      have ids : record.items.Pairwise fun item other => item.row.id ≠ other.row.id := by
        rw [List.pairwise_iff_getElem]
        intro index other bound otherBound before
        exact itemIds_apart fresh issued (List.getElem?_eq_getElem bound)
          (List.getElem?_eq_getElem otherBound) before
      refine (ids.and (List.pairwise_map.mp caseIds)).imp fun apart => ?_
      simp [EvalRunItem.conflicts, apart.1.symm, apart.2.symm]
    · intro stored member row rowMember
      rcases List.mem_map.mp rowMember with ⟨item, itemMember, rfl⟩
      have otherRun : item.row.runId ≠ stored.runId := by
        intro same
        rcases consistent.refer.evalRunItems stored member with ⟨run, found, -⟩
        have ofRun := List.find?_some found
        refine fresh.run run (List.mem_of_find?_eq_some found) ?_
        rw [beq_iff_eq.mp ofRun, ← same, (items item itemMember).1, issuedRun]
      simp [EvalRunItem.conflicts, (newItem itemMember stored member).symm, otherRun]
  · refine List.pairwise_append.mpr ⟨evidence.traces,
      traceRows_keyed fresh issued fun item member => (items item member).2, ?_⟩
    intro stored member row rowMember
    rcases List.mem_flatten.mp rowMember with ⟨group, groupMember, inGroup⟩
    rcases List.mem_mapIdx.mp groupMember with ⟨index, bound, rfl⟩
    have otherItem := unused (List.getElem_mem bound) (consistent.refer.traces stored member)
    rcases List.mem_mapIdx.mp inGroup with ⟨position, _, rfl⟩
    simp [TraceRow.conflicts, (fresh.traces stored member index position).symm, otherItem]
  · refine List.pairwise_append.mpr ⟨evidence.evalResults,
      resultRows_keyed fresh issued distinct, ?_⟩
    intro stored member row rowMember
    rcases List.mem_flatten.mp rowMember with ⟨group, groupMember, inGroup⟩
    rcases List.mem_mapIdx.mp groupMember with ⟨index, bound, rfl⟩
    have otherItem := unused (List.getElem_mem bound) (consistent.refer.evalResults stored member)
    rcases List.mem_mapIdx.mp inGroup with ⟨position, _, rfl⟩
    simp [EvalResultRow.conflicts, (fresh.evalResults stored member index _).symm, otherItem]

end

section

variable {env : Environment} {readings : RunReadings} {db : Database} {organizationId : String}
variable {payload : RunCreate} {record : RunRecord}

theorem commit_executed (consistent : db.Consistent) (listed : db.ListedKeyed)
    (evidence : db.EvidenceKeyed) (organization : db.hasOrganization organizationId = true)
    (fresh : NewRunIds readings db)
    (executed : executeRun env readings.execution (runRequest db organizationId payload) =
      .ok record) :
    ∃ next, db.commit (record.writes readings) = some next := by
  have kinds := executeRun_items executed
  rcases executeRun_ok executed with
    ⟨plan, adapter, checked, -, items, completed, errored, ran, rfl⟩
  rcases plan_cases listed checked with ⟨caseIds, storedCases⟩
  have issued : ItemsIssued readings items := by
    intro index item held
    rcases executeCases_getElem? ran held with ⟨case, -, flushed⟩
    rw [(executeCase_row flushed).1, Nat.zero_add]
  have distinct : ∀ item ∈ items, (item.results.map (·.evaluatorName)).Nodup := by
    intro item member
    rcases forall₂_exists_left (executeCases_ok ran) item member with ⟨_, -, _, flushed⟩
    rcases SessionItem.flush_some flushed with ⟨held, kept⟩
    exact held.nodup kept
  have itemCases : items.map (·.row.caseId) = plan.cases.map (·.id) := by
    have related : List.Forall₂ (fun case item => case.id = item.row.caseId) plan.cases items :=
      (executeCases_ok ran).imp fun _ _ ⟨_, flushed⟩ => (executeCase_row flushed).2.2.symm
    exact (List.forall₂_eq_eq_eq ▸ List.forall₂_map_left_iff.mpr
      (List.forall₂_map_right_iff.mpr related)).symm
  have keyed := runTablesKeyed consistent evidence fresh rfl issued kinds distinct
    (by rw [itemCases]; exact caseIds)
  refine ⟨_, commit_of_keyed (recordWrites_ofRun readings _) ⟨?_, ?_⟩ keyed⟩
  · exact plannedRun_referenced consistent organization checked ⟨rfl, rfl, rfl, rfl⟩
  · refine @referenced_groups _ (readings.execution.newUuid 0) plan.cases readings.Issues _ ?_
      storedCases ?_
    · rw [Database.hasRun, List.any_eq_true]
      exact ⟨_, List.mem_append_right _ List.mem_cons_self, beq_self_eq_true _⟩
    · intro group member
      rcases List.mem_mapIdx.mp member with ⟨index, bound, rfl⟩
      have itemMember : items[index] ∈ items := List.getElem_mem bound
      rcases forall₂_exists_left (executeCases_ok ran) _ itemMember with
        ⟨case, caseMember, _, flushed⟩
      exact itemWrites_group index (kinds _ itemMember).1
        ⟨case, caseMember, (executeCase_row flushed).2.2⟩
        (.inl ⟨index + 1, issued index _ (List.getElem?_eq_getElem bound)⟩)

end

/-- In every reachable state, a run that the executor returns for an evaluator is
answered and stored whole: no statement of its transaction is refused. -/
theorem executed_runs_answered (db : Database) (reachable : db.Reachable) (call : Call)
    (payload : RunCreate) (sync : call.deployment.settings.runMode ≠ "celery")
    (fresh : NewRunIds call.readings.run (call.begins db)) (principal : Principal)
    (found : call.principal? db = some principal)
    (evaluator : Role.evaluator.level ≤ principal.role.level) (record : RunRecord)
    (executed : executeRun call.deployment.env call.readings.run.execution
      (runRequest (call.begins db) principal.organizationId payload) = .ok record) :
    ∃ answer, ((call.asking (.tenant (.createRun payload))).serve db).2 = .ok answer ∧
      ExecutedAnswer call.deployment.env call.readings.run principal payload (call.begins db)
        ((call.asking (.tenant (.createRun payload))).serve db).1 answer record := by
  rcases Call.principal?_eq_some found with ⟨authenticated, settled⟩
  have consistent : (call.begins db).Consistent :=
    call.authenticate_consistent reachable.consistent
  have nextConsistent := (call.asking (.tenant (.createRun payload))).serve_consistent
    reachable.consistent
  have listed : (call.begins db).ListedKeyed :=
    settle_keeps _ reachable.listedKeyed fun _ committed => reachable.listedKeyed.commit committed
  have evidence : (call.begins db).EvidenceKeyed :=
    settle_keeps _ reachable.evidenceKeyed fun _ committed =>
      reachable.evidenceKeyed.commit committed
  have organization : (call.begins db).hasOrganization principal.organizationId = true :=
    hasOrganization_of_same (call.authenticate_same db)
      (call.hasOrganization reachable.identityConsistent authenticated)
  have served := @Call.serve_of_settled _ _ (call.asking (.tenant (.createRun payload))) settled
  rcases commit_executed consistent listed evidence organization fresh executed with
    ⟨next, committed⟩
  have allowed : requireRole principal .evaluator = .ok () := requireRole_eq_ok_iff.mpr evaluator
  have created : createRun call.deployment.settings.runMode call.deployment.env
      call.readings.run (call.begins db) principal payload = {
        writes := record.writes call.readings.run
        answer := .ok ({ toEvalRun := record.run
                         createdAt := call.readings.run.createdAt } : EvalRunRow).read } := by
    simp only [createRun, allowed, if_neg sync, createSyncRun, executed]
  have left : (call.asking (.tenant (.createRun payload))).serve db =
      (next, .ok ({ toEvalRun := record.run
                    createdAt := call.readings.run.createdAt } : EvalRunRow).read) := by
    refine served.trans ?_
    change Reply.settle (call.begins db) (createRun call.deployment.settings.runMode
      call.deployment.env call.readings.run (call.begins db) principal payload) = _
    rw [created]
    simp only [Reply.settle, committed]
  rw [left] at nextConsistent ⊢
  rcases createRun_stored sync consistent nextConsistent (congrArg Reply.answer created)
    ((congrArg (fun reply => (call.begins db).commit reply.writes) created).trans committed) with
    ⟨stored, answer⟩
  cases executed.symm.trans answer.executed
  exact ⟨_, rfl, answer⟩

namespace Scenario

/-- Ids in unary, which begin with a mark. -/
def unaryId (mark : Char) (index : Nat) : String :=
  String.ofList (mark :: List.replicate index mark)

def unaryEvidenceId (mark : Char) (index position : Nat) : String :=
  String.ofList (mark :: (List.replicate index 'i' ++ 'x' :: List.replicate position 'p'))

theorem unaryId_injective (mark : Char) : Function.Injective (unaryId mark) := by
  intro index other same
  have lengths := congrArg List.length (String.ofList_inj.mp same)
  simp only [List.length_cons, List.length_replicate] at lengths
  omega

theorem unaryEvidenceId_injective {mark : Char} {index other position otherPosition : Nat}
    (same : unaryEvidenceId mark index position = unaryEvidenceId mark other otherPosition) :
    index = other ∧ position = otherPosition := by
  have rest := (List.cons.inj (String.ofList_inj.mp same)).2
  have first := congrArg (List.count 'i') rest
  have last := congrArg (List.count 'p') rest
  simp [List.count_replicate] at first last
  exact ⟨first, last⟩

theorem ne_unaryId {mark : Char} {id : String} (begins : id.toList.head? ≠ some mark)
    (index : Nat) : id ≠ unaryId mark index := by
  rintro rfl
  exact begins (by rw [unaryId, String.toList_ofList, List.head?_cons])

theorem ne_unaryEvidenceId {mark : Char} {id : String} (begins : id.toList.head? ≠ some mark)
    (index position : Nat) : id ≠ unaryEvidenceId mark index position := by
  rintro rfl
  exact begins (by rw [unaryEvidenceId, String.toList_ofList, List.head?_cons])

def unaryRun (mark : Char) : RunReadings :=
  { (namedReadings "").run with
    execution := { newUuid := unaryId mark, utcNow := fun index => index, integrityError := ⟨""⟩ }
    evidenceUuid := unaryEvidenceId mark }

theorem unaryRun_new {mark : Char} {db : Database}
    (runs : ∀ stored ∈ db.evalRuns, stored.id.toList.head? ≠ some mark)
    (items : ∀ stored ∈ db.evalRunItems, stored.id.toList.head? ≠ some mark)
    (traces : ∀ stored ∈ db.traces, stored.id.toList.head? ≠ some mark)
    (results : ∀ stored ∈ db.evalResults, stored.id.toList.head? ≠ some mark) :
    NewRunIds (unaryRun mark) db where
  ids := unaryId_injective mark
  run stored member := ne_unaryId (runs stored member) 0
  items stored member := ne_unaryId (items stored member)
  evidence _ _ _ _ same := unaryEvidenceId_injective same
  traces stored member := ne_unaryEvidenceId (traces stored member)
  evalResults stored member := ne_unaryEvidenceId (results stored member)

def unaryCall : Call :=
  { candidateCall with readings := { candidateCall.readings with run := unaryRun 'u' } }

end Scenario

theorem executed_runs_answered_scenario :
    ∃ record answer,
      (Scenario.unaryCall.serve Scenario.candidateState).2 = .ok answer ∧
        ExecutedAnswer Scenario.environment (Scenario.unaryRun 'u') (systemPrincipal .development)
          Scenario.candidatePayload (Scenario.unaryCall.begins Scenario.candidateState)
          (Scenario.unaryCall.serve Scenario.candidateState).1 answer record := by
  have runs : (executeRun Scenario.environment (Scenario.unaryRun 'u').execution
      (runRequest (Scenario.unaryCall.begins Scenario.candidateState)
        (systemPrincipal .development).organizationId Scenario.candidatePayload)).isOk = true := by
    decide +kernel
  have fresh : NewRunIds (Scenario.unaryRun 'u')
      (Scenario.unaryCall.begins Scenario.candidateState) :=
    Scenario.unaryRun_new (by decide +kernel) (by decide +kernel) (by decide +kernel)
      (by decide +kernel)
  cases executed : executeRun Scenario.environment (Scenario.unaryRun 'u').execution
      (runRequest (Scenario.unaryCall.begins Scenario.candidateState)
        (systemPrincipal .development).organizationId Scenario.candidatePayload) with
  | error error =>
      rw [executed] at runs
      cases runs
  | ok record =>
      rcases executed_runs_answered Scenario.candidateState ⟨0, Scenario.devEvents.take 6, rfl⟩
        Scenario.unaryCall Scenario.candidatePayload (by decide) fresh (systemPrincipal .development)
        rfl (by decide) record executed with ⟨answer, answered, stored⟩
      exact ⟨record, answer, answered, stored⟩

end EvalForge
