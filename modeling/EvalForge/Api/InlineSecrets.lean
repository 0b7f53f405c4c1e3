import EvalForge.Api.Apps
import EvalForge.Foundation.OrderStatistics
import EvalForge.Services.RunExecutor
import EvalForge.Workers.Evidence

/-! # Secrets in a version config

Version creation rejects configs by whole names, traces are redacted by parts
of names, and the two normalise names differently. A name can fall between
them.
-/

namespace EvalForge

open Foundation

/-! ## What a secret is -/

/-- The name, normalised as version creation does, has a part that redaction
looks for. -/
def isSensitiveName (key : String) : Bool :=
  PythonText.containsAny sensitiveConfigParts (normalizedKey key)

mutual
def SameOutsideSecrets : Json → Json → Prop
  | .dict fields, .dict others => SameFieldsOutsideSecrets fields others
  | .list items, .list others => SameItemsOutsideSecrets items others
  | value, other => value = other

def SameFieldsOutsideSecrets : List (String × Json) → List (String × Json) → Prop
  | [], [] => True
  | (key, value) :: fields, (otherKey, other) :: others =>
      key = otherKey ∧ (isSensitiveName key = false → SameOutsideSecrets value other) ∧
        SameFieldsOutsideSecrets fields others
  | _, _ => False

def SameItemsOutsideSecrets : List Json → List Json → Prop
  | [], [] => True
  | item :: items, other :: others =>
      SameOutsideSecrets item other ∧ SameItemsOutsideSecrets items others
  | _, _ => False
end

mutual
/-- Outside redacted values there is a sensitive name that is not redacted. -/
def exposesSecrets : Json → Bool
  | .dict fields => exposesSecretFields fields
  | .list items => exposesSecretItems items
  | _ => false

def exposesSecretFields : List (String × Json) → Bool
  | [] => false
  | (key, value) :: fields =>
      (!isSensitiveKey key && (isSensitiveName key || exposesSecrets value)) ||
        exposesSecretFields fields

def exposesSecretItems : List Json → Bool
  | [] => false
  | item :: items => exposesSecrets item || exposesSecretItems items
end

/-! ## The same outside secrets -/

mutual
theorem SameOutsideSecrets.refl : ∀ value, SameOutsideSecrets value value
  | .dict fields => by
      simp only [SameOutsideSecrets]
      exact SameFieldsOutsideSecrets.refl fields
  | .list items => by
      simp only [SameOutsideSecrets]
      exact SameItemsOutsideSecrets.refl items
  | .null | .bool _ | .int _ | .float _ | .str _ => by simp [SameOutsideSecrets]

theorem SameFieldsOutsideSecrets.refl : ∀ fields, SameFieldsOutsideSecrets fields fields
  | [] => by simp [SameFieldsOutsideSecrets]
  | (_, value) :: fields => by
      simp only [SameFieldsOutsideSecrets, true_and]
      exact ⟨fun _ => SameOutsideSecrets.refl value, SameFieldsOutsideSecrets.refl fields⟩

theorem SameItemsOutsideSecrets.refl : ∀ items, SameItemsOutsideSecrets items items
  | [] => by simp [SameItemsOutsideSecrets]
  | item :: items => by
      simp only [SameItemsOutsideSecrets]
      exact ⟨SameOutsideSecrets.refl item, SameItemsOutsideSecrets.refl items⟩
end

/-! ## Redaction hides what is not exposed -/

mutual
theorem redactSensitiveConfig_eq : ∀ value other, exposesSecrets value = false →
    SameOutsideSecrets value other → redactSensitiveConfig value = redactSensitiveConfig other
  | .dict fields, other, hidden, same => by
      cases other with
      | dict others =>
          simp only [exposesSecrets] at hidden
          simp only [SameOutsideSecrets] at same
          simp only [redactSensitiveConfig]
          rw [redactFields_eq fields others hidden same]
      | _ => simp [SameOutsideSecrets] at same
  | .list items, other, hidden, same => by
      cases other with
      | list others =>
          simp only [exposesSecrets] at hidden
          simp only [SameOutsideSecrets] at same
          simp only [redactSensitiveConfig]
          rw [redactItems_eq items others hidden same]
      | _ => simp [SameOutsideSecrets] at same
  | .null, other, _, same | .bool _, other, _, same | .int _, other, _, same
  | .float _, other, _, same | .str _, other, _, same => by
      simp only [SameOutsideSecrets] at same
      rw [same]

theorem redactFields_eq : ∀ fields others, exposesSecretFields fields = false →
    SameFieldsOutsideSecrets fields others → redactFields fields = redactFields others
  | [], [], _, _ => rfl
  | (key, value) :: fields, (otherKey, other) :: others, hidden, same => by
      simp only [exposesSecretFields, Bool.or_eq_false_iff] at hidden
      simp only [SameFieldsOutsideSecrets] at same
      rcases same with ⟨rfl, sameValue, sameFields⟩
      simp only [redactFields]
      rw [redactFields_eq fields others hidden.2 sameFields]
      cases sensitive : isSensitiveKey key with
      | true => rfl
      | false =>
          simp only [sensitive, Bool.not_false, Bool.true_and, Bool.or_eq_false_iff] at hidden
          rw [redactSensitiveConfig_eq value other hidden.1.2 (sameValue hidden.1.1)]
  | [], _ :: _, _, same => by simp [SameFieldsOutsideSecrets] at same
  | _ :: _, [], _, same => by simp [SameFieldsOutsideSecrets] at same

theorem redactItems_eq : ∀ items others, exposesSecretItems items = false →
    SameItemsOutsideSecrets items others → redactItems items = redactItems others
  | [], [], _, _ => rfl
  | item :: items, other :: others, hidden, same => by
      simp only [exposesSecretItems, Bool.or_eq_false_iff] at hidden
      simp only [SameItemsOutsideSecrets] at same
      simp only [redactItems]
      rw [redactSensitiveConfig_eq item other hidden.1 same.1,
        redactItems_eq items others hidden.2 same.2]
  | [], _ :: _, _, same => by simp [SameItemsOutsideSecrets] at same
  | _ :: _, [], _, same => by simp [SameItemsOutsideSecrets] at same
end

/-! ## Exposed secrets show -/

theorem exists_plain_ne (redacted : Json) :
    ∃ plain, (∀ path, findInlineSecretKeys path plain = []) ∧
      redactSensitiveConfig plain ≠ redacted := by
  by_cases null : redactSensitiveConfig .null = redacted
  · refine ⟨.bool true, fun _ => by simp [findInlineSecretKeys], ?_⟩
    rw [← null]
    simp [redactSensitiveConfig]
  · exact ⟨.null, fun _ => by simp [findInlineSecretKeys], null⟩

/-- Another value, also accepted, that shows in the redacted config. -/
def Revealed (path : String) (value : Json) : Prop :=
  ∃ other, findInlineSecretKeys path other = [] ∧ SameOutsideSecrets value other ∧
    redactSensitiveConfig value ≠ redactSensitiveConfig other

def FieldsRevealed (path : String) (fields : List (String × Json)) : Prop :=
  ∃ others, findInlineSecretFields path others = [] ∧ SameFieldsOutsideSecrets fields others ∧
    redactFields fields ≠ redactFields others

def ItemsRevealed (path : String) (index : Nat) (items : List Json) : Prop :=
  ∃ others, findInlineSecretItems path index others = [] ∧
    SameItemsOutsideSecrets items others ∧ redactItems items ≠ redactItems others

section Revealed

variable {path key : String} {index : Nat} {value : Json} {fields : List (String × Json)}
variable {items : List Json}

theorem FieldsRevealed.revealed (fieldsRevealed : FieldsRevealed path fields) :
    Revealed path (.dict fields) := by
  rcases fieldsRevealed with ⟨others, accepted, same, differ⟩
  refine ⟨.dict others, ?_, ?_, ?_⟩
  · simpa only [findInlineSecretKeys] using accepted
  · simpa only [SameOutsideSecrets] using same
  · simpa only [redactSensitiveConfig, ne_eq, Json.dict.injEq] using differ

theorem ItemsRevealed.revealed (itemsRevealed : ItemsRevealed path 0 items) :
    Revealed path (.list items) := by
  rcases itemsRevealed with ⟨others, accepted, same, differ⟩
  refine ⟨.list others, ?_, ?_, ?_⟩
  · simpa only [findInlineSecretKeys] using accepted
  · simpa only [SameOutsideSecrets] using same
  · simpa only [redactSensitiveConfig, ne_eq, Json.list.injEq] using differ

theorem FieldsRevealed.head (kept : isSensitiveKey key = false)
    (accepted : findInlineSecretFields path ((key, value) :: fields) = [])
    (nested : isSensitiveName key = false → Revealed s!"{path}.{key}" value) :
    FieldsRevealed path ((key, value) :: fields) := by
  simp only [findInlineSecretFields, List.append_eq_nil_iff] at accepted
  have changed : ∃ other, findInlineSecretKeys s!"{path}.{key}" other = [] ∧
      (isSensitiveName key = false → SameOutsideSecrets value other) ∧
      redactSensitiveConfig value ≠ redactSensitiveConfig other := by
    cases sensitive : isSensitiveName key with
    | true =>
        rcases exists_plain_ne (redactSensitiveConfig value) with ⟨plain, clean, differ⟩
        exact ⟨plain, clean _, by simp, differ.symm⟩
    | false =>
        rcases nested sensitive with ⟨other, clean, same, differ⟩
        exact ⟨other, clean, fun _ => same, differ⟩
  rcases changed with ⟨other, clean, same, differ⟩
  refine ⟨(key, other) :: fields, ?_, ?_, ?_⟩
  · simp only [findInlineSecretFields, List.append_eq_nil_iff]
    exact ⟨⟨accepted.1.1, clean⟩, accepted.2⟩
  · simp only [SameFieldsOutsideSecrets, true_and]
    exact ⟨same, SameFieldsOutsideSecrets.refl fields⟩
  · simpa [redactFields, kept] using differ

theorem FieldsRevealed.tail
    (accepted : findInlineSecretFields path ((key, value) :: fields) = [])
    (later : FieldsRevealed path fields) : FieldsRevealed path ((key, value) :: fields) := by
  simp only [findInlineSecretFields, List.append_eq_nil_iff] at accepted
  rcases later with ⟨others, clean, same, differ⟩
  refine ⟨(key, value) :: others, ?_, ?_, ?_⟩
  · simp only [findInlineSecretFields, List.append_eq_nil_iff]
    exact ⟨accepted.1, clean⟩
  · simp only [SameFieldsOutsideSecrets, true_and]
    exact ⟨fun _ => SameOutsideSecrets.refl value, same⟩
  · simpa [redactFields] using differ

theorem ItemsRevealed.head (accepted : findInlineSecretItems path index (value :: items) = [])
    (first : Revealed s!"{path}[{index}]" value) : ItemsRevealed path index (value :: items) := by
  simp only [findInlineSecretItems, List.append_eq_nil_iff] at accepted
  rcases first with ⟨other, clean, same, differ⟩
  refine ⟨other :: items, ?_, ?_, ?_⟩
  · simp only [findInlineSecretItems, List.append_eq_nil_iff]
    exact ⟨clean, accepted.2⟩
  · simp only [SameItemsOutsideSecrets]
    exact ⟨same, SameItemsOutsideSecrets.refl items⟩
  · simpa [redactItems] using differ

theorem ItemsRevealed.tail (accepted : findInlineSecretItems path index (value :: items) = [])
    (later : ItemsRevealed path (index + 1) items) :
    ItemsRevealed path index (value :: items) := by
  simp only [findInlineSecretItems, List.append_eq_nil_iff] at accepted
  rcases later with ⟨others, clean, same, differ⟩
  refine ⟨value :: others, ?_, ?_, ?_⟩
  · simp only [findInlineSecretItems, List.append_eq_nil_iff]
    exact ⟨accepted.1, clean⟩
  · simp only [SameItemsOutsideSecrets]
    exact ⟨SameOutsideSecrets.refl value, same⟩
  · simpa [redactItems] using differ

end Revealed

mutual
theorem revealed_of_exposes : ∀ value path, exposesSecrets value = true →
    findInlineSecretKeys path value = [] → Revealed path value
  | .dict fields, path => by
      intro exposed accepted
      simp only [exposesSecrets] at exposed
      simp only [findInlineSecretKeys] at accepted
      exact (fieldsRevealed_of_exposes fields path exposed accepted).revealed
  | .list items, path => by
      intro exposed accepted
      simp only [exposesSecrets] at exposed
      simp only [findInlineSecretKeys] at accepted
      exact (itemsRevealed_of_exposes items path 0 exposed accepted).revealed
  | .null, _ | .bool _, _ | .int _, _ | .float _, _ | .str _, _ => by simp [exposesSecrets]

theorem fieldsRevealed_of_exposes : ∀ fields path, exposesSecretFields fields = true →
    findInlineSecretFields path fields = [] → FieldsRevealed path fields
  | [], _ => by simp [exposesSecretFields]
  | (key, value) :: fields, path => by
      intro exposed accepted
      have parts := accepted
      simp only [findInlineSecretFields, List.append_eq_nil_iff] at parts
      simp only [exposesSecretFields, Bool.or_eq_true, Bool.and_eq_true,
        Bool.not_eq_eq_eq_not, Bool.not_true] at exposed
      rcases exposed with ⟨kept, exposed⟩ | later
      · apply FieldsRevealed.head kept accepted
        intro named
        exact revealed_of_exposes value _ (exposed.resolve_left (by simp [named])) parts.1.2
      · exact .tail accepted (fieldsRevealed_of_exposes fields path later parts.2)

theorem itemsRevealed_of_exposes : ∀ items path index, exposesSecretItems items = true →
    findInlineSecretItems path index items = [] → ItemsRevealed path index items
  | [], _, _ => by simp [exposesSecretItems]
  | item :: items, path, index => by
      intro exposed accepted
      have parts := accepted
      simp only [findInlineSecretItems, List.append_eq_nil_iff] at parts
      simp only [exposesSecretItems, Bool.or_eq_true] at exposed
      rcases exposed with first | later
      · exact .head accepted (revealed_of_exposes item _ first parts.1)
      · exact .tail accepted (itemsRevealed_of_exposes items path (index + 1) later parts.2)
end

/-! ## What the traces store -/

def Trace.StoresRedacted (version : AppVersion) (trace : Trace) : Prop :=
  trace.payload.find? "version_config" = some (redactSensitiveConfig version.config)

theorem tracePayload_versionConfig (case : EvalCase) (version : AppVersion)
    (output : AdapterOutput) :
    (tracePayload case version output).find? "version_config" =
      some (redactSensitiveConfig version.config) := by
  simp [tracePayload, Json.find?, List.lookup_cons]

theorem executeCase_storesRedacted {env : Environment} {inputs : ExecutionInputs}
    {plan : RunPlan} {adapter : Adapter} {runId : String} {index : Nat} {case : EvalCase} :
    ∀ payload ∈ (executeCase env inputs plan adapter runId index case).item.trace,
      payload.find? "version_config" = some (redactSensitiveConfig plan.version.config) := by
  intro payload member
  unfold executeCase at member
  simp only [] at member
  split at member
  · cases member
  · split at member <;> cases member <;> exact tracePayload_versionConfig _ _ _

theorem executeRun_storesRedacted {env : Environment} {inputs : ExecutionInputs}
    {request : RunRequest} {record : RunRecord} {version : AppVersion}
    (executed : executeRun env inputs request = .ok record)
    (requested : request.version = some version) :
    ∀ item ∈ record.items, ∀ trace ∈ item.traces, trace.StoresRedacted version := by
  rcases executeRun_ok executed with ⟨plan, adapter, checked, _, items, _, _, ran, rfl⟩
  have same : version = plan.version :=
    Option.some.inj (requested.symm.trans (RunRequest.check_ok checked).1)
  subst same
  intro item member
  rcases forall₂_exists_left (executeCases_ok ran) item member with ⟨case, _, index, flushed⟩
  intro trace traced
  rw [(SessionItem.flush_some flushed).2.traces] at traced
  rcases List.mem_map.mp traced with ⟨payload, held, rfl⟩
  exact executeCase_storesRedacted payload (Option.mem_toList.mp held)

/-- The traces of the item hold the redacted config, and its deliveries compute
from the task's rows. -/
structure ItemSystem.Redacted (env : Environment) (task : CaseTask) (version : AppVersion)
    (system : ItemSystem) : Prop where
  traces : ∀ trace ∈ system.item.traces, trace.StoresRedacted version
  sound : ∀ attempt ∈ system.deliveries, PhaseSound env task attempt.phase

section Worker

variable {env : Environment} {task : CaseTask} {version : AppVersion} {now : Nat}
variable {item : ItemRecord} {attempt : Attempt} {action : AttemptAction}
variable {result : AttemptResult} {current next : ItemSystem}

theorem CaseTask.loadEntities_version {inputs : CaseInputs}
    (loaded : task.loadEntities = .ok inputs) : task.version = some inputs.version := by
  unfold CaseTask.loadEntities at loaded
  split at loaded
  · cases loaded
  · cases loaded
  · cases loaded
  · next versionFound _ =>
    cases loaded
    exact versionFound

theorem AttemptTransition.storesRedacted
    (transition : AttemptTransition env task now item attempt action result)
    (named : task.version = some version) (sound : PhaseSound env task attempt.phase)
    (stored : ∀ trace ∈ item.traces, trace.StoresRedacted version) :
    ∀ trace ∈ result.item.traces, trace.StoresRedacted version := by
  cases transition with
  | clear => simp [Attempt.enter, clearStaleData]
  | commit inputs output results completedAt _ committed phase success =>
      rw [phase] at sound
      have same : version = inputs.version :=
        Option.some.inj (named.symm.trans (CaseTask.loadEntities_version sound.1))
      intro trace member
      simp only [Attempt.enter, (commitSuccess_some success).2.traces, List.mem_append,
        List.mem_singleton] at member
      rcases member with member | rfl
      · exact stored trace member
      · rw [same]
        exact tracePayload_versionConfig _ _ _
  | _ => exact stored

theorem ItemSystem.Redacted.step (redacted : current.Redacted env task version)
    (named : task.version = some version) {action : ItemAction}
    (stepped : itemStep env task current action = some next) :
    next.Redacted env task version := by
  cases itemStep_transition stepped with
  | tick => exact ⟨redacted.traces, redacted.sound⟩
  | deliver index message _ =>
      refine ⟨redacted.traces, ?_⟩
      intro attempt member
      rcases List.mem_append.mp member with member | member
      · exact redacted.sound attempt member
      · cases List.mem_singleton.mp member
        trivial
  | attempt index action attempt result delivered transition =>
      have sound := redacted.sound attempt (List.mem_of_getElem? delivered)
      refine ⟨transition.storesRedacted named sound redacted.traces, ?_⟩
      intro other member
      rcases mem_afterAttempt member with member | rfl
      · exact redacted.sound other member
      · exact transition.phaseSound sound

theorem workerTraces_storeRedacted {actions : List ItemAction} {runId : String}
    {messages : List Message} {system : ItemSystem}
    (ran : run (itemStep env task)
      { ItemSystem.created task runId now with messages } actions = some system)
    (named : task.version = some version) :
    ∀ trace ∈ system.item.traces, trace.StoresRedacted version := by
  have initial : ItemSystem.Redacted env task version
      { ItemSystem.created task runId now with messages } :=
    ⟨by simp [ItemSystem.created], by simp [ItemSystem.created]⟩
  have final := run_invariant (ItemSystem.Redacted env task version)
    (fun _ _ _ redacted stepped => redacted.step named stepped) ran initial
  exact final.traces

end Worker

/-! ## Rejected or redacted -/

/-- The traces of both executors hold the redacted config. It does not depend on
the values of sensitive names if and only if every sensitive name is redacted or
lies in a value that is. -/
theorem secrets_rejected_or_redacted_iff (config : Json) :
    (∀ (env : Environment) (inputs : ExecutionInputs) (request : RunRequest)
        (record : RunRecord) (version : AppVersion),
      executeRun env inputs request = .ok record → request.version = some version →
      ∀ item ∈ record.items, ∀ trace ∈ item.traces, trace.StoresRedacted version) ∧
    (∀ (env : Environment) (task : CaseTask) (runId : String) (now : Nat)
        (messages : List Message) (actions : List ItemAction) (system : ItemSystem)
        (version : AppVersion),
      run (itemStep env task) { ItemSystem.created task runId now with messages } actions =
        some system →
      task.version = some version →
      ∀ trace ∈ system.item.traces, trace.StoresRedacted version) ∧
    ((findInlineSecretKeys "config" config ≠ [] ∨
        ∀ other, findInlineSecretKeys "config" other = [] → SameOutsideSecrets config other →
          redactSensitiveConfig config = redactSensitiveConfig other) ↔
      (findInlineSecretKeys "config" config ≠ [] ∨ exposesSecrets config = false)) := by
  refine ⟨?_, ?_, ?_⟩
  · exact fun _ _ _ _ _ executed requested => executeRun_storesRedacted executed requested
  · exact fun _ _ _ _ _ _ _ _ ran named => workerTraces_storeRedacted ran named
  · constructor
    · rintro (rejected | independent)
      · exact .inl rejected
      · by_cases accepted : findInlineSecretKeys "config" config = []
        · right
          by_contra exposed
          rcases revealed_of_exposes config "config" (by simpa using exposed) accepted with
            ⟨other, otherAccepted, same, differ⟩
          exact differ (independent other otherAccepted same)
        · exact .inl accepted
    · rintro (rejected | hidden)
      · exact .inl rejected
      · exact .inr fun other _ same => redactSensitiveConfig_eq config other hidden same

namespace Scenario

def configOf (key value : String) : Json :=
  .dict [("question_prefix", .str ""), (key, .str value)]

end Scenario

theorem secrets_rejected_or_redacted_iff_scenario :
    (findInlineSecretKeys "config" (Scenario.configOf "api_key_env" "KEY") ≠ [] ∨
      ∀ other, findInlineSecretKeys "config" other = [] →
        SameOutsideSecrets (Scenario.configOf "api_key_env" "KEY") other →
        redactSensitiveConfig (Scenario.configOf "api_key_env" "KEY") =
          redactSensitiveConfig other) ∧
    ∀ system, run (itemStep Scenario.environment Scenario.task)
        { ItemSystem.created Scenario.task "run-1" 0 with messages := [] } [] = some system →
      ∀ trace ∈ system.item.traces, trace.StoresRedacted Scenario.version :=
  ⟨(secrets_rejected_or_redacted_iff _).2.2.mpr (.inr (by decide +kernel)),
    fun system ran => (secrets_rejected_or_redacted_iff .null).2.1 Scenario.environment Scenario.task
      "run-1" 0 [] [] system Scenario.version ran rfl⟩

/-- `x-api-key` is not a whole name of a secret, and its parts only show once
the hyphens are replaced. -/
theorem hyphenated_secret_stored :
    ¬∀ config : Json, findInlineSecretKeys "config" config ≠ [] ∨
      ∀ other, findInlineSecretKeys "config" other = [] → SameOutsideSecrets config other →
        redactSensitiveConfig config = redactSensitiveConfig other := by
  intro property
  have accepted : ∀ value,
      findInlineSecretKeys "config" (Scenario.configOf "x-api-key" value) = [] := by
    intro value
    have unknown : isSecretName "x-api-key" = false ∧ isSecretName "question_prefix" = false := by
      decide +kernel
    simp [Scenario.configOf, findInlineSecretKeys, findInlineSecretFields, unknown]
  have sensitive : isSensitiveName "x-api-key" = true := by decide +kernel
  have kept : isSensitiveKey "x-api-key" = false := by decide +kernel
  rcases property (Scenario.configOf "x-api-key" "first") with rejected | independent
  · exact rejected (accepted _)
  · have same := independent (Scenario.configOf "x-api-key" "second") (accepted _)
      (by simp [Scenario.configOf, SameOutsideSecrets, SameFieldsOutsideSecrets, sensitive])
    simp [Scenario.configOf, redactSensitiveConfig, redactFields, kept] at same

end EvalForge
