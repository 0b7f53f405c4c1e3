import EvalForge.Api.RunRows
import EvalForge.Services.RunCompletion
import EvalForge.Workers.StoredSystem

/-! # The server and its workers

Requests of any kind, and the steps of all dispatched runs with their transactions, in
any order on one database. Every dispatched run is stored as its workers have left it.
-/

namespace EvalForge

open Foundation

/-! ## What the workers of a run write -/

def Write.Within (runId : String) (itemIds : List String) : Write → Prop
  | .setRunProgress id .. => id = runId
  | .setItem id _ => id ∈ itemIds
  | .insertTrace row => row.runItemId ∈ itemIds
  | .insertResult row => row.runItemId ∈ itemIds
  | .deleteEvidence id => id ∈ itemIds
  | _ => False

def RunSystem.itemIds (system : RunSystem) : List String := system.rows.map (·.id)

section

variable {system : RunSystem} {readings : EvidenceReadings} {item : ItemRecord}
variable {runId : String} {itemIds : List String}

theorem mem_itemIds {slot : Slot} (member : slot ∈ system.slots) :
    slot.system.item.row.id ∈ system.itemIds :=
  List.mem_map_of_mem (List.mem_map_of_mem member)

theorem attemptWrites_within (own : item.row.id ∈ itemIds) (storesJson : Json → Bool) (now : Nat)
    (attempt : Attempt) (action : AttemptAction) :
    ∀ write ∈ attemptWrites storesJson readings now item attempt action,
      write.Within runId itemIds := by
  intro write member
  unfold attemptWrites at member
  split at member
  · split at member
    · next row claims =>
      rcases claimRunItem_some claims with ⟨-, rfl⟩
      rw [List.mem_singleton.mp member]
      exact own
    · cases member
  · rw [List.mem_singleton.mp member]
    exact own
  · split at member
    · cases member
    · rcases List.mem_cons.mp member with rfl | evidence
      · exact own
      · have evidences := writes_evidences readings _ _ _ write evidence
        cases write with
        | insertTrace row =>
            have ofItem : row.runItemId = item.row.id := evidences
            rw [Write.Within, ofItem]
            exact own
        | insertResult row =>
            have ofItem : row.runItemId = item.row.id := evidences
            rw [Write.Within, ofItem]
            exact own
        | _ => exact evidences.elim
  · rw [List.mem_singleton.mp member]
    exact own
  · cases member

theorem failureWrites_within (completedAt : Nat) :
    ∀ write ∈ system.failureWrites completedAt, write.Within system.run.id system.itemIds := by
  intro write member
  rcases List.mem_cons.mp member with rfl | items
  · rfl
  · rcases List.mem_map.mp items with ⟨row, rowMember, rfl⟩
    rcases List.mem_map.mp rowMember with ⟨failed, failedMember, rfl⟩
    rcases List.mem_map.mp failedMember with ⟨slot, slotMember, rfl⟩
    have own := mem_itemIds slotMember
    exact own

theorem completeRun_id (counts : ItemCounts) (completedAt : Nat) (run : EvalRun) :
    (completeRun counts completedAt run).id = run.id := by
  unfold completeRun
  split <;> rfl

theorem transaction_within (storesJson : Json → Bool) (action : RunAction) :
    ∀ write ∈ system.transaction storesJson readings action,
      write.Within system.run.id system.itemIds := by
  intro write member
  unfold RunSystem.transaction at member
  split at member
  · exact failureWrites_within _ write member
  · split at member
    · cases member
    · next held =>
      have own := mem_itemIds (List.mem_of_getElem? held)
      split at member
      · cases member
      · rw [List.mem_singleton.mp member]
        rfl
      · exact attemptWrites_within own _ _ _ _ write member
  · split at member
    · split at member
      · rw [List.mem_singleton.mp member]
        exact completeRun_id _ _ _
      · cases member
    · cases member
  · cases member

/-! ## Other runs -/

variable {db middle next : Database} {other : String}

namespace Database.SameStoredRun

theorem refl (db : Database) (runId : String) : db.SameStoredRun db runId := ⟨rfl, rfl⟩

theorem trans (before : db.SameStoredRun middle runId) (after : middle.SameStoredRun next runId) :
    db.SameStoredRun next runId :=
  ⟨after.run.trans before.run, after.items.trans before.items⟩

theorem itemsOf (same : db.SameStoredRun next runId) : next.itemsOf runId = db.itemsOf runId := by
  rw [← rows_storedItems, same.items, rows_storedItems]

theorem of_runTables (same : next.runTables = db.runTables) (runId : String) :
    db.SameStoredRun next runId := by
  have evalRuns := congrArg Database.evalRuns same
  have items := congrArg Database.evalRunItems same
  have traces := congrArg Database.traces same
  have results := congrArg Database.evalResults same
  refine ⟨?_, storedItems_of_same items traces results⟩
  exact congrArg (List.find? (·.id == runId)) evalRuns

end Database.SameStoredRun

theorem updateItem_apart {itemId : String} {change : ItemRecord → ItemRecord}
    (apart : ∀ row ∈ db.itemsOf other, row.id ≠ itemId) :
    updateItem itemId change (db.storedItems other) = db.storedItems other := by
  refine updateWhere_of_absent fun item member => ?_
  rcases List.mem_map.mp member with ⟨row, rowMember, rfl⟩
  exact beq_false_of_ne (apart row rowMember)

theorem apply_within {write : Write} (within : write.Within runId itemIds)
    (otherRun : other ≠ runId) (otherItems : ∀ row ∈ db.itemsOf other, row.id ∉ itemIds)
    (applied : db.apply write = some next) : db.SameStoredRun next other := by
  have apart {itemId : String} (member : itemId ∈ itemIds) :
      ∀ row ∈ db.itemsOf other, row.id ≠ itemId :=
    fun row rowMember same => otherItems row rowMember (same ▸ member)
  cases write with
  | setRunProgress id status caseCompleted caseErrored completedAt =>
      have named : id = runId := within
      cases applied
      refine ⟨?_, storedItems_of_same rfl rfl rfl⟩
      rw [Database.run?, Database.run?, ← List.head?_filter, ← List.head?_filter]
      refine congrArg List.head? (filter_updateWhere_of_apart fun row _ selected => ?_)
      have unselected : (row.id == other) = false := by
        rw [beq_iff_eq.mp selected, named]
        exact beq_false_of_ne otherRun.symm
      exact ⟨unselected, unselected⟩
  | setItem id row =>
      refine ⟨?_, ?_⟩
      · cases applied
        rfl
      · rw [storedItems_setItem applied, updateItem_apart (apart within)]
  | deleteEvidence id =>
      refine ⟨?_, ?_⟩
      · cases applied
        rfl
      · rw [storedItems_deleteEvidence applied, updateItem_apart (apart within)]
  | insertTrace row =>
      rcases apply_insertTrace applied with ⟨-, -, rfl⟩
      have inserted := @storedItems_insertEvidence db other row.runItemId [row] []
        (List.forall_mem_singleton.mpr rfl) (List.forall_mem_nil _)
      rw [updateItem_apart (apart within), List.append_nil] at inserted
      exact ⟨rfl, inserted⟩
  | insertResult row =>
      rcases apply_insertResult applied with ⟨-, -, rfl⟩
      have inserted := @storedItems_insertEvidence db other row.runItemId [] [row]
        (List.forall_mem_nil _) (List.forall_mem_singleton.mpr rfl)
      rw [updateItem_apart (apart within), List.append_nil] at inserted
      exact ⟨rfl, inserted⟩
  | _ => exact within.elim

theorem commit_within {writes : List Write}
    (within : ∀ write ∈ writes, write.Within runId itemIds) (otherRun : other ≠ runId)
    (otherItems : ∀ row ∈ db.itemsOf other, row.id ∉ itemIds)
    (committed : db.commit writes = some next) : db.SameStoredRun next other :=
  commit_keeps (fun current => db.SameStoredRun current other) (·.Within runId itemIds)
    (fun current _ _ allowed kept applied => by
      have items : ∀ row ∈ current.itemsOf other, row.id ∉ itemIds := by
        rw [kept.itemsOf]
        exact otherItems
      exact kept.trans (apply_within allowed otherRun items applied))
    within (.refl db other) committed

end

theorem RunSystem.StoredIn.items_apart {createdAt : Nat} {db : Database} {system : RunSystem}
    (stored : system.StoredIn createdAt db) (consistent : db.Consistent) {other : String}
    (apart : other ≠ system.run.id) : ∀ row ∈ db.itemsOf other, row.id ∉ system.itemIds := by
  intro row member own
  rw [RunSystem.itemIds, ← stored.rows] at own
  rcases List.mem_map.mp own with ⟨item, itemMember, same⟩
  rcases List.mem_filter.mp member with ⟨rowMember, ofOther⟩
  rcases List.mem_filter.mp itemMember with ⟨itemMember, ofRun⟩
  have conflict : ∀ left right : EvalRunItem, left.id = right.id →
      left.conflicts right = true := by
    intro left right same
    rw [EvalRunItem.conflicts, same, beq_self_eq_true, Bool.true_or]
  have equal := consistent.keyed.evalRunItems.eq_of_conflicts itemMember rowMember
    (conflict item row same) (conflict row item same.symm)
  rw [equal, beq_iff_eq.mp ofOther] at ofRun
  exact apart (beq_iff_eq.mp ofRun)

/-! ## The runs of the server -/

/-- A dispatched run, with the state that it was committed in and its steps since. -/
structure Dispatched where
  createdAt : Nat
  initial : RunSystem
  actions : List RunAction := []
  current : RunSystem

namespace Dispatched

def extend (dispatched : Dispatched) (action : RunAction) (next : RunSystem) : Dispatched :=
  { dispatched with actions := dispatched.actions ++ [action], current := next }

/-- It was dispatched, its steps are steps of its workers, and it is stored as they
left it. -/
structure Sound (env : Environment) (db : Database) (dispatched : Dispatched) : Prop where
  accepted : ∃ inputs request, dispatchRun inputs request = .ok dispatched.initial
  reached : run (runStep env) dispatched.initial dispatched.actions = some dispatched.current
  stored : dispatched.current.StoredIn dispatched.createdAt db

end Dispatched

/-- What `dispatch_run` leaves to the workers once its run is committed. A submission
that the broker refuses is the first step of the run. -/
def RunReadings.dispatched (readings : RunReadings) (db : Database) (request : RunRequest) :
    Option Dispatched :=
  match dispatchRun readings.dispatch request with
  | .error _ => none
  | .ok system =>
      match db.commit (system.writes readings.createdAt) with
      | none => none
      | some _ =>
          let dispatched : Dispatched :=
            { createdAt := readings.createdAt, initial := system, current := system }
          match system.dispatch, readings.submissionFails with
          | .submitting, some completedAt =>
              some (dispatched.extend (.submissionFails completedAt)
                (system.failSubmission completedAt))
          | _, _ => some dispatched

def Call.dispatched (call : Call) (db : Database) : Option Dispatched :=
  match call.request, call.principal? db with
  | .tenant (.createRun payload), some principal =>
      match requireRole principal .evaluator with
      | .error _ => none
      | .ok () =>
          if call.deployment.settings.runMode = "celery" then
            call.readings.run.dispatched (call.begins db)
              (runRequest (call.begins db) principal.organizationId payload)
          else none
  | _, _ => none

section

variable {db next : Database} {env : Environment} {readings : RunReadings}

theorem flatten_itemWrites {items : List ItemRecord} {writes : Nat → ItemRecord → List Write}
    (each : ∀ index, ∀ item ∈ items, writes index item = [.insertItem item.row]) :
    (items.mapIdx writes).flatten = items.map fun item => .insertItem item.row := by
  induction items generalizing writes with
  | nil => rfl
  | cons item items induction =>
      rw [List.mapIdx_cons, List.flatten_cons, each 0 item List.mem_cons_self,
        induction fun index other member => each (index + 1) other (List.mem_cons_of_mem _ member)]
      rfl

def RunSystem.record (system : RunSystem) : RunRecord where
  run := system.run
  items := system.slots.map (·.system.item)

theorem dispatched_items {inputs : DispatchInputs} {request : RunRequest} {system : RunSystem}
    (dispatched : dispatchRun inputs request = .ok system) :
    ∀ item ∈ system.record.items,
      item.row.runId = system.run.id ∧ item.traces = [] ∧ item.results = [] := by
  rcases dispatchRun_ok dispatched with ⟨plan, -, rfl⟩
  intro item member
  rcases List.mem_map.mp member with ⟨slot, slotMember, rfl⟩
  have created := mem_createSlots slotMember
  rw [created]
  exact ⟨rfl, rfl, rfl⟩

theorem record_writes {inputs : DispatchInputs} {request : RunRequest} {system : RunSystem}
    (dispatched : dispatchRun inputs request = .ok system) :
    system.record.writes readings = system.writes readings.createdAt := by
  have rows : (system.record.items.mapIdx (itemWrites readings)).flatten =
      system.record.items.map fun item => .insertItem item.row := by
    refine flatten_itemWrites fun index item member => ?_
    rcases dispatched_items dispatched item member with ⟨-, traces, results⟩
    rw [itemWrites, traces, results]
    rfl
  rw [RunRecord.writes, rows, RunSystem.record, List.map_map, RunSystem.writes, RunSystem.rows,
    List.map_map]
  rfl

theorem storedIn_created (consistent : db.Consistent) (nextConsistent : next.Consistent)
    {inputs : DispatchInputs} {request : RunRequest} {system : RunSystem}
    (dispatched : dispatchRun inputs request = .ok system)
    (committed : db.commit (system.writes readings.createdAt) = some next) :
    system.StoredIn readings.createdAt next ∧
      (∀ run ∈ db.evalRuns, run.id ≠ system.run.id) ∧
      ∀ runId, runId ≠ system.run.id → db.SameStoredRun next runId := by
  rw [← record_writes dispatched] at committed
  have stored := storedRun consistent nextConsistent committed fun item member =>
    (dispatched_items dispatched item member).1
  refine ⟨⟨stored.run, stored.items.trans ?_⟩, newRun_apart nextConsistent committed,
    stored.others⟩
  rw [RunSystem.record, List.map_map]
  rfl

end

/-! ## Requests -/

/-- The stored runs stay as they are, and the dispatched one is new. -/
structure ServesRuns (env : Environment) (db next : Database) (dispatched : Option Dispatched) :
    Prop where
  others : ∀ runId, (db.run? runId).isSome → db.SameStoredRun next runId
  joins : ∀ joined, dispatched = some joined →
    joined.Sound env next ∧ ∀ run ∈ db.evalRuns, run.id ≠ joined.current.run.id

section

variable {db next : Database} {env : Environment} {readings : RunReadings}
variable {principal : Principal} {payload : RunCreate}

theorem ServesRuns.of_runTables (same : next.runTables = db.runTables) :
    ServesRuns env db next none :=
  ⟨fun runId _ => .of_runTables same runId, fun _ none => by cases none⟩

theorem isSome_run?_ne {runId newId : String} (there : (db.run? runId).isSome)
    (apart : ∀ run ∈ db.evalRuns, run.id ≠ newId) : runId ≠ newId := by
  rcases Option.isSome_iff_exists.mp there with ⟨run, found⟩
  rcases mem_of_find?_key found with ⟨member, named⟩
  exact named ▸ apart run member

theorem createSyncRun_serves {executing : Environment} {request : RunRequest}
    (consistent : db.Consistent)
    (nextConsistent : (Reply.settle db (createSyncRun executing readings request)).1.Consistent) :
    ServesRuns env db (Reply.settle db (createSyncRun executing readings request)).1 none := by
  unfold createSyncRun at nextConsistent ⊢
  cases executed : executeRun executing readings.execution request with
  | error error => exact .of_runTables rfl
  | ok record =>
      simp only [executed] at nextConsistent
      simp only [Reply.settle] at nextConsistent ⊢
      cases committed : db.commit (record.writes readings) with
      | none => exact .of_runTables rfl
      | some next =>
          simp only [committed] at nextConsistent
          have items := executeRun_items executed
          have stored := storedRun consistent nextConsistent committed fun item member =>
            (items item member).1
          have apart := newRun_apart nextConsistent committed
          exact ⟨fun runId there => stored.others runId (isSome_run?_ne there apart),
            fun _ none => by cases none⟩

theorem createCeleryRun_serves {value : Unit}
    (allowed : requireRole principal .evaluator = .ok value) (consistent : db.Consistent) :
    ServesRuns env db
      (Reply.settle db
        (createCeleryRun readings (runRequest db principal.organizationId payload))).1
      (readings.dispatched db (runRequest db principal.organizationId payload)) := by
  unfold createCeleryRun RunReadings.dispatched
  cases dispatched : dispatchRun readings.dispatch
      (runRequest db principal.organizationId payload) with
  | error error => exact .of_runTables rfl
  | ok system =>
      have admits := (dispatch_creates allowed consistent dispatched).admits
      cases committed : db.commit (system.writes readings.createdAt) with
      | none =>
          have refused (updates : List Write) :
              db.commit (system.writes readings.createdAt ++ updates) = none := by
            rw [Database.commit_append, committed]
            rfl
          simp only [committed]
          split
          · simp only [Reply.settle, refused]
            exact .of_runTables rfl
          · simp only [Reply.settle, committed]
            exact .of_runTables rfl
      | some middle =>
          have middleConsistent := consistent.commit admits committed
          rcases storedIn_created consistent middleConsistent dispatched committed with
            ⟨stored, new, others⟩
          have kept (answer : Except HttpError RunRead) :
              ServesRuns env db
                (Reply.settle db { writes := system.writes readings.createdAt, answer }).1
                (some { createdAt := readings.createdAt, initial := system, current := system }) := by
            simp only [Reply.settle, committed]
            refine ⟨fun runId there => others runId (isSome_run?_ne there new), ?_⟩
            rintro _ ⟨⟩
            exact ⟨⟨⟨_, _, dispatched⟩, rfl, stored⟩, new⟩
          simp only [committed]
          cases submitting : system.dispatch with
          | submitting =>
              cases submissionFails : readings.submissionFails with
              | none => exact kept _
              | some completedAt =>
                  rcases stored.failSubmission middleConsistent completedAt with
                    ⟨changed, updated, failed⟩
                  have both : db.commit
                      (system.writes readings.createdAt ++ system.failureWrites completedAt) =
                      some changed := by
                    rw [Database.commit_append, committed]
                    exact updated
                  simp only [Reply.settle, both]
                  refine ⟨fun runId there => ?_, ?_⟩
                  · have apart := isSome_run?_ne there new
                    refine (others runId apart).trans
                      (commit_within (failureWrites_within completedAt) apart
                        (stored.items_apart middleConsistent apart) updated)
                  · rintro _ ⟨⟩
                    refine ⟨⟨⟨_, _, dispatched⟩, ?_, failed⟩, new⟩
                    rw [Dispatched.extend, List.nil_append, run, runStep, if_pos submitting]
                    rfl
          | _ => exact kept _

theorem ServesRuns.after {middle : Database} {dispatched : Option Dispatched}
    (same : middle.runTables = db.runTables) (serves : ServesRuns env middle next dispatched) :
    ServesRuns env db next dispatched := by
  have evalRuns := congrArg Database.evalRuns same
  have sameRuns : middle.evalRuns = db.evalRuns := evalRuns
  refine ⟨fun runId there => ?_, fun joined found => sameRuns ▸ serves.joins joined found⟩
  have before := Database.SameStoredRun.of_runTables same runId
  rw [← before.run] at there
  exact before.trans (serves.others runId there)

/-- No request touches the runs that are stored, and one that is left to the workers
is new. -/
theorem Call.serve_serves (call : Call) (reachable : db.Reachable) :
    ServesRuns env db (call.serve db).1 (call.dispatched db) := by
  have consistent : (call.begins db).Consistent := call.authenticate_consistent reachable.consistent
  have nextConsistent := call.serve_consistent reachable.consistent
  have begins := call.begins_runTables db
  rcases call with ⟨deployment, readings, headers, request⟩
  cases creates : request.createsRun with
  | false =>
      have unplanned : Call.dispatched ⟨deployment, readings, headers, request⟩ db = none := by
        unfold Call.dispatched
        split
        · next requested found =>
          have asked : request = .tenant (.createRun _) := requested
          rw [asked] at creates
          cases creates
        · rfl
      rw [unplanned]
      exact .of_runTables (Call.serve_runTables creates db)
  | true =>
      have requested : ∃ payload, request = .tenant (.createRun payload) := by
        unfold ApiRequest.createsRun at creates
        split at creates
        · exact ⟨_, rfl⟩
        · cases creates
      rcases requested with ⟨payload, rfl⟩
      let call : Call := ⟨deployment, readings, headers, .tenant (.createRun payload)⟩
      cases settled : (Reply.settle db (call.authenticate db)).2 with
      | error error =>
          have unplanned : call.dispatched db = none := by
            simp only [Call.dispatched, call, Call.principal?, settled]
            rfl
          have served : (call.serve db).1 = call.begins db := by
            simp only [Call.serve, settled]
            rfl
          change ServesRuns env db (call.serve db).1 (call.dispatched db)
          rw [unplanned, served]
          exact .of_runTables begins
      | ok principal =>
          have found : call.principal? db = some principal := by
            rw [Call.principal?, settled]
            rfl
          change ServesRuns env db (call.serve db).1 (call.dispatched db)
          change (call.serve db).1.Consistent at nextConsistent
          rw [Call.serve_of_settled settled] at nextConsistent ⊢
          refine ServesRuns.after begins ?_
          change ServesRuns env (call.begins db) (Reply.settle (call.begins db)
            (createRun deployment.settings.runMode deployment.env readings.run (call.begins db)
              principal payload)).1 _
          change (Reply.settle (call.begins db) (createRun deployment.settings.runMode
            deployment.env readings.run (call.begins db) principal payload)).1.Consistent
            at nextConsistent
          unfold createRun at nextConsistent ⊢
          simp only [Call.dispatched, call, found]
          cases allowed : requireRole principal .evaluator with
          | error error => exact .of_runTables rfl
          | ok value =>
              simp only [allowed] at nextConsistent
              by_cases celery : deployment.settings.runMode = "celery"
              · simp only [if_pos celery]
                exact createCeleryRun_serves allowed consistent
              · simp only [if_neg celery] at nextConsistent ⊢
                exact createSyncRun_serves consistent nextConsistent

end

/-! ## Runs of the cluster -/

structure Cluster where
  db : Database
  runs : List Dispatched := []

/-- A request, or a step of one of the runs with what its transaction reads. -/
inductive ClusterEvent
  | call (call : Call)
  | login (deployment : Deployment) (readings : RequestReadings) (payload : LoginCreate)
  | bootstrap (deployment : Deployment) (request : BootstrapRequest)
  | work (index : Nat) (readings : EvidenceReadings) (action : RunAction)

/-- A step of a run is possible when its workers can take it. -/
def clusterStep (env : Environment) (cluster : Cluster) : ClusterEvent → Option Cluster
  | .call call => some {
      db := (call.serve cluster.db).1
      runs := cluster.runs ++ (call.dispatched cluster.db).toList }
  | .login deployment readings payload => some { cluster with
      db := (Reply.settle cluster.db
        (loginUser deployment.toBootstrapContext readings cluster.db payload)).1 }
  | .bootstrap deployment request => some { cluster with
      db := (Reply.settle cluster.db
        (bootstrap deployment.toBootstrapContext cluster.db request)).1 }
  | .work index readings action => do
      let dispatched ← cluster.runs[index]?
      let next ← runStep env dispatched.current action
      return {
        db := (cluster.db.commit
          (dispatched.current.transaction env.storesJson readings action)).getD cluster.db
        runs := cluster.runs.set index (dispatched.extend action next) }

def IssuesNewIds (cluster : Cluster) (event : ClusterEvent) (_ : Cluster) : Prop :=
  match event with
  | .work _ readings _ => readings.New cluster.db
  | _ => True

/-- The runs are distinct, and each is stored as its workers have left it. -/
structure Cluster.Sound (env : Environment) (cluster : Cluster) : Prop where
  reachable : cluster.db.Reachable
  runs : ∀ dispatched ∈ cluster.runs, dispatched.Sound env cluster.db
  distinct : (cluster.runs.map (·.current.run.id)).Nodup

section

variable {env : Environment} {cluster next : Cluster} {db : Database}

theorem RunTransition.runId {system after : RunSystem} {action : RunAction}
    (transition : RunTransition env system action after) : after.run.id = system.run.id := by
  cases transition with
  | item index action slot next held stepped =>
      cases refreshes : action.refreshes with
      | false => rw [afterItem_run_of_not_refreshes next refreshes]
      | true => rw [afterItem_run_of_refreshes next refreshes]; rfl
  | completeRun completedAt counts counted => exact completeRun_id counts completedAt system.run
  | _ => rfl

theorem RunSystem.StoredIn.of_same {system : RunSystem} {createdAt : Nat} {next : Database}
    (stored : system.StoredIn createdAt db) (same : db.SameStoredRun next system.run.id) :
    system.StoredIn createdAt next :=
  ⟨same.run.trans stored.run, same.items.trans stored.items⟩

theorem Dispatched.Sound.of_same {dispatched : Dispatched} {next : Database}
    (sound : dispatched.Sound env db)
    (same : db.SameStoredRun next dispatched.current.run.id) : dispatched.Sound env next :=
  ⟨sound.accepted, sound.reached, sound.stored.of_same same⟩

theorem Cluster.Sound.serves {dispatched : Option Dispatched} {changed : Database}
    (sound : cluster.Sound env) (reachable : changed.Reachable)
    (serves : ServesRuns env cluster.db changed dispatched) :
    Cluster.Sound env { db := changed, runs := cluster.runs ++ dispatched.toList } := by
  have there : ∀ old ∈ cluster.runs, (cluster.db.run? old.current.run.id).isSome := by
    intro old member
    rw [(sound.runs old member).stored.run]
    rfl
  refine ⟨reachable, ?_, ?_⟩
  · intro joined member
    rcases List.mem_append.mp member with old | new
    · exact (sound.runs joined old).of_same (serves.others _ (there joined old))
    · exact (serves.joins joined (Option.mem_toList.mp new)).1
  · rw [List.map_append, List.nodup_append]
    refine ⟨sound.distinct, ?_, ?_⟩
    · cases dispatched with
      | none => exact List.nodup_nil
      | some joined => exact List.nodup_singleton _
    · intro oldId oldMember newId newMember
      rcases List.mem_map.mp oldMember with ⟨old, member, rfl⟩
      rcases List.mem_map.mp newMember with ⟨joined, joinedMember, rfl⟩
      have new := (serves.joins joined (Option.mem_toList.mp joinedMember)).2
      exact isSome_run?_ne (there old member) new

theorem Cluster.Sound.changes {changed : Database} (sound : cluster.Sound env)
    (reachable : changed.Reachable) (same : changed.runTables = cluster.db.runTables) :
    Cluster.Sound env { cluster with db := changed } := by
  have kept := sound.serves reachable (.of_runTables same)
  rw [Option.toList_none, List.append_nil] at kept
  exact kept

theorem Cluster.Sound.others {readings : EvidenceReadings} {action : RunAction}
    {dispatched : Dispatched} (sound : cluster.Sound env) (member : dispatched ∈ cluster.runs) :
    ∀ runId, runId ≠ dispatched.current.run.id → cluster.db.SameStoredRun
      ((cluster.db.commit
        (dispatched.current.transaction env.storesJson readings action)).getD cluster.db)
      runId := by
  intro runId apart
  have own := sound.runs dispatched member
  cases committed : cluster.db.commit
      (dispatched.current.transaction env.storesJson readings action) with
  | none => exact .refl cluster.db runId
  | some changed =>
      exact commit_within (transaction_within env.storesJson action) apart
        (own.stored.items_apart sound.reachable.consistent apart) committed

/-- A step of one run keeps it stored and leaves all others. -/
theorem Cluster.Sound.work {index : Nat} {readings : EvidenceReadings} {action : RunAction}
    {dispatched : Dispatched} {after : RunSystem} (sound : cluster.Sound env)
    (fresh : readings.New cluster.db) (held : cluster.runs[index]? = some dispatched)
    (stepped : runStep env dispatched.current action = some after) :
    Cluster.Sound env {
      db := (cluster.db.commit
        (dispatched.current.transaction env.storesJson readings action)).getD cluster.db
      runs := cluster.runs.set index (dispatched.extend action after) } := by
  have consistent := sound.reachable.consistent
  have member := List.mem_of_getElem? held
  have own := sound.runs dispatched member
  have sameId : after.run.id = dispatched.current.run.id := (runStep_transition stepped).runId
  have others := @Cluster.Sound.others env cluster readings action dispatched sound member
  refine ⟨?_, ?_, ?_⟩
  · exact @Database.Reachable.run _ _
      [.work ⟨dispatched.current.transaction env.storesJson readings action,
        transaction_byWorker _ _ _ _⟩]
      sound.reachable rfl
  · intro other otherMember
    rcases List.mem_iff_getElem?.mp otherMember with ⟨position, found⟩
    rw [List.getElem?_set] at found
    split at found
    · next same =>
      rw [if_pos (List.getElem?_eq_some_iff.mp held).1] at found
      cases found
      refine ⟨own.accepted, ?_, ?_⟩
      · rw [Dispatched.extend, run_append, own.reached]
        exact stepped
      · exact storedIn_step own.stored consistent sound.reachable.evidenceKeyed fresh stepped
    · next different =>
      have apart : other.current.run.id ≠ dispatched.current.run.id := by
        intro same
        have bound := (List.getElem?_eq_some_iff.mp held).1
        refine different ((List.getElem?_inj (by simpa using bound) sound.distinct).mp ?_)
        rw [List.getElem?_map, List.getElem?_map, held, found, Option.map_some, Option.map_some,
          same]
      exact (sound.runs other (List.mem_of_getElem? found)).of_same (others _ apart)
  · rcases List.getElem?_eq_some_iff.mp held with ⟨bound, equal⟩
    have ids : (cluster.runs.set index (dispatched.extend action after)).map
        (·.current.run.id) = cluster.runs.map (·.current.run.id) := by
      refine List.ext_getElem? fun position => ?_
      rw [List.getElem?_map, List.getElem?_map, List.getElem?_set]
      split
      · next same =>
        subst same
        rw [held, Option.map_some]
        simp [Dispatched.extend, sameId]
      · rfl
    rw [ids]
    exact sound.distinct

theorem clusterStep_sound {event : ClusterEvent} (sound : cluster.Sound env)
    (stepped : clusterStep env cluster event = some next)
    (fresh : IssuesNewIds cluster event next) : next.Sound env := by
  cases event with
  | call call =>
      cases stepped
      exact sound.serves (sound.reachable.serve call) (call.serve_serves sound.reachable)
  | login deployment readings payload =>
      cases stepped
      have offRuns : OffRuns (loginUser deployment.toBootstrapContext readings cluster.db
          payload).writes :=
        .of_onIdentity fun write member =>
          onIdentity_of_onCredentials (loginUser_writes write member)
      exact sound.changes (@Database.Reachable.run _ _ [.login deployment readings payload]
        sound.reachable rfl) offRuns.settle
  | bootstrap deployment request =>
      cases stepped
      exact sound.changes (@Database.Reachable.run _ _ [.bootstrap deployment request]
        sound.reachable rfl) (OffRuns.of_onIdentity bootstrap_writes).settle
  | work index readings action =>
      rcases Option.bind_eq_some_iff.mp stepped with ⟨dispatched, held, rest⟩
      rcases Option.bind_eq_some_iff.mp rest with ⟨after, runStepped, updated⟩
      cases updated
      exact sound.work fresh held runStepped

/-- In every run of the server and its workers. -/
theorem cluster_sound {final : Cluster} {events : List ClusterEvent} (createdAt : Nat)
    (ran : run (clusterStep env) { db := .migrated createdAt } events = some final)
    (fresh : Along (clusterStep env) IssuesNewIds { db := .migrated createdAt } events) :
    final.Sound env := by
  refine Transitions.invariant (Cluster.Sound env)
    (fun _ _ _ sound stepped fresh => clusterStep_sound sound stepped fresh)
    (run_eq_some_iff.mp ran) ⟨⟨createdAt, [], rfl⟩, List.forall_mem_nil _, List.nodup_nil⟩ fresh

end

end EvalForge
