import EvalForge.Evaluators.Registry

/-! # What an accepted configuration executes

Validation recognises a stripped name, and the engine looks up the name as it
stands. -/

namespace EvalForge

namespace Environment

variable {env : Environment}

theorem validateSpec_registered {index : Nat} {seen : List String} {spec : Json} {name : String}
    (accepted : env.validateSpec index seen spec = .ok name) :
    ∃ evaluator, evaluatorRegistry (env.strippedName spec) = some evaluator := by
  unfold validateSpec at accepted
  split at accepted
  · cases accepted
  · split at accepted
    · cases accepted
    · split at accepted
      · cases accepted
      · next evaluator registered => exact ⟨evaluator, registered⟩

theorem validateSpecs_registered {index : Nat} {seen : List String} {specs : List Json}
    (accepted : env.validateSpecs index seen specs = .ok ()) :
    ∀ spec ∈ specs, ∃ evaluator, evaluatorRegistry (env.strippedName spec) = some evaluator := by
  induction specs generalizing index seen with
  | nil => simp
  | cons spec specs induction =>
      cases checked : env.validateSpec index seen spec with
      | error exc => simp [validateSpecs, checked, bind, Except.bind] at accepted
      | ok name =>
          simp only [validateSpecs, checked, bind, Except.bind] at accepted
          intro other member
          rcases List.mem_cons.mp member with rfl | member
          · exact validateSpec_registered checked
          · exact induction accepted other member

theorem stored_of_held {config : Json} {specs : List Json}
    (held : config.get "evaluators" (.list []) = .list specs) (nonempty : specs ≠ []) :
    config.get "evaluators" .null = .list specs := by
  cases found : config.find? "evaluators" with
  | none =>
      simp only [Json.get, found, Option.getD_none, Json.list.injEq] at held
      exact absurd held.symm nonempty
  | some value =>
      simp only [Json.get, found, Option.getD_some] at held ⊢
      exact held

end Environment

theorem strip_of_registered {name : String} {evaluator : EvaluatorName}
    (registered : evaluatorRegistry name = some evaluator) : PythonText.strip name = name := by
  rw [← evaluatorRegistry_text registered]
  cases evaluator <;> decide +kernel

namespace EvaluatorContext

variable (context : EvaluatorContext)

/-- The result of a specification is what the evaluator that validation
recognised records for it. -/
def ResultOf (env : Environment) (payload : Json) (output : AdapterOutput) (spec : Json)
    (result : EvaluationResult) : Prop :=
  ∃ evaluator, evaluatorRegistry (env.strippedName spec) = some evaluator ∧
    result.evaluatorName = evaluator.text ∧
    result = context.recordedResult evaluator payload output spec

/-- Every specification gets the one result of its own evaluator, in order and
under its own name. -/
def ExecutesAsValidated (env : Environment) (config payload : Json) (output : AdapterOutput) :
    Prop :=
  ∃ specs results, config.get "evaluators" .null = .list specs ∧
    env.evaluateCase payload output config = .ok results ∧
    List.Forall₂ (context.ResultOf env payload output) specs results ∧
    (results.map (·.evaluatorName)).Nodup

variable {context} {loadAdapter : String → Except PythonException Adapter}
variable {installed : String → Bool} {payload spec : Json} {output : AdapterOutput}
variable {result : EvaluationResult}

theorem resultOf_iff (isDict : spec.isDict = true)
    (recognised : ∃ evaluator,
      evaluatorRegistry ((context.environment loadAdapter installed).strippedName spec) =
        some evaluator)
    (evaluated : (context.environment loadAdapter installed).evaluateSpec payload output spec =
      .ok result) :
    context.ResultOf (context.environment loadAdapter installed) payload output spec result ↔
      (context.environment loadAdapter installed).strippedName spec =
        (context.environment loadAdapter installed).specName spec := by
  constructor
  · rintro ⟨evaluator, registered, named, -⟩
    exact strip_of_registered (evaluateSpec_named isDict evaluated named).1
  · intro stripped
    rcases recognised with ⟨evaluator, registered⟩
    rw [stripped] at registered
    rw [evaluateSpec_of_registered isDict registered] at evaluated
    cases evaluated
    exact ⟨evaluator, stripped.symm ▸ registered, recordedResult_name .., rfl⟩

theorem forall₂_resultOf_iff {specs : List Json} {results : List EvaluationResult}
    (recognised : ∀ spec ∈ specs, spec.isDict = true ∧ ∃ evaluator,
      evaluatorRegistry ((context.environment loadAdapter installed).strippedName spec) =
        some evaluator)
    (evaluated : List.Forall₂ (fun spec result =>
      (context.environment loadAdapter installed).evaluateSpec payload output spec = .ok result)
        specs results) :
    List.Forall₂ (context.ResultOf (context.environment loadAdapter installed) payload output)
        specs results ↔
      ∀ spec ∈ specs, (context.environment loadAdapter installed).strippedName spec =
        (context.environment loadAdapter installed).specName spec := by
  induction evaluated with
  | nil => simp
  | @cons spec result specs results first _ induction =>
      have head := recognised spec List.mem_cons_self
      have rest := induction fun other member => recognised other (List.mem_cons_of_mem _ member)
      rw [List.forall₂_cons, resultOf_iff head.1 head.2 first, rest, List.forall_mem_cons]

end EvaluatorContext

open EvaluatorContext

/-- An accepted configuration is executed as it was validated exactly if no
name carries white space around it. -/
theorem accepted_config_executes_iff (context : EvaluatorContext)
    (loadAdapter : String → Except PythonException Adapter) (installed : String → Bool)
    (config accepted : Json)
    (valid : (context.environment loadAdapter installed).validateEvaluatorConfig config =
      .ok accepted)
    (payload : Json) (output : AdapterOutput) :
    context.ExecutesAsValidated (context.environment loadAdapter installed) config payload
        output ↔
      ∀ specs, config.get "evaluators" .null = .list specs → ∀ spec ∈ specs,
        PythonText.strip ((context.environment loadAdapter installed).specName spec) =
          (context.environment loadAdapter installed).specName spec := by
  rcases Environment.validateEvaluatorConfig_ok valid with ⟨specs, held, nonempty, checked⟩
  have stored := Environment.stored_of_held held nonempty
  have dicts := (Environment.validateSpecs_ok checked).1
  have registered := Environment.validateSpecs_registered checked
  rcases Environment.evaluateCase_of_accepted valid payload output with
    ⟨results, evaluated, nodup⟩
  have each := forall₂_resultOf_iff
    (fun spec member => ⟨(dicts spec member).1, registered spec member⟩)
    (Environment.forall₂_of_held held evaluated)
  constructor
  · rintro ⟨others, otherResults, otherStored, otherEvaluated, related, -⟩
    cases stored.symm.trans otherStored
    cases evaluated.symm.trans otherEvaluated
    intro again againStored
    cases stored.symm.trans againStored
    exact each.mp related
  · intro stripped
    exact ⟨specs, results, stored, evaluated, each.mpr (stripped specs stored), nodup⟩

namespace Scenario

/-- Plain texts are themselves, and nothing else is converted. -/
def plainContext : EvaluatorContext where
  text
    | .str text => text
    | _ => ""
  lower text := String.ofList (PythonText.lower text)
  float
    | .float value => .ok (.finite value)
    | _ => .error ⟨"float() argument must be a string or a real number"⟩
  int
    | .int value => .ok value
    | _ => .error ⟨"int() argument must be a string or a real number"⟩
  equal left right :=
    match left, right with
    | .str left, .str right => left == right
    | _, _ => false
  floatJson
    | .finite value => .float value
    | _ => .null
  cosineSimilarity _ _ := .error ⟨"No module named 'sentence_transformers'"⟩
  nliScores _ _ := .error ⟨"No module named 'transformers'"⟩

def plainOutput : AdapterOutput where
  answer := "Use venv."
  retrievedChunks := []
  promptUsed := "prompt"
  modelUsed := "deterministic-demo-rag"
  latencyMs := 120
  estimatedCostUsd := 0
  traceSteps := []

def plainEnvironment : Environment :=
  plainContext.environment (fun _ => .ok fun _ _ => .ok plainOutput) fun _ => true

def plainPayload : Json :=
  .dict [("input", .str "Which module?"), ("expected_output", .str "Use venv")]

def namedConfig (name : String) : Json :=
  .dict [("evaluators", .list [.dict [("name", .str name)]])]

theorem namedConfig_accepted {name : String}
    (recognised : plainEnvironment.validateSpecs 0 [] [.dict [("name", .str name)]] = .ok ()) :
    plainEnvironment.validateEvaluatorConfig (namedConfig name) = .ok (namedConfig name) := by
  have held : (namedConfig name).get "evaluators" .null =
      .list [.dict [("name", .str name)]] := rfl
  rw [Environment.validateEvaluatorConfig, held]
  simp only [recognised, bind, Except.bind]
  rfl

end Scenario

theorem accepted_config_executes_iff_scenario :
    Scenario.plainContext.ExecutesAsValidated Scenario.plainEnvironment
        (Scenario.namedConfig "exact_match") Scenario.plainPayload Scenario.plainOutput ↔
      ∀ specs, (Scenario.namedConfig "exact_match").get "evaluators" .null = .list specs →
        ∀ spec ∈ specs, PythonText.strip (Scenario.plainEnvironment.specName spec) =
          Scenario.plainEnvironment.specName spec :=
  accepted_config_executes_iff _ _ _ _ _ (Scenario.namedConfig_accepted (by rfl)) _ _

/-- The name with a space before it is accepted, and no evaluator runs. -/
theorem spaced_name_is_unknown :
    ¬∀ (context : EvaluatorContext) (loadAdapter : String → Except PythonException Adapter)
      (installed : String → Bool) (config accepted : Json),
      (context.environment loadAdapter installed).validateEvaluatorConfig config = .ok accepted →
      ∀ (payload : Json) (output : AdapterOutput),
        context.ExecutesAsValidated (context.environment loadAdapter installed) config payload
          output := by
  intro executes
  have accepted := @Scenario.namedConfig_accepted " exact_match" (by rfl)
  rcases executes _ _ _ _ _ accepted Scenario.plainPayload Scenario.plainOutput with
    ⟨specs, results, held, evaluated, related, -⟩
  cases held
  rcases List.forall₂_cons_left_iff.mp related with ⟨result, rest, head, -, rfl⟩
  rcases head with ⟨evaluator, registered, named, -⟩
  have unknown : result.evaluatorName = " exact_match" := by
    have names := Environment.forall₂_names (Environment.forall₂_of_held rfl evaluated)
    exact (List.cons.inj names).1.trans (by rfl)
  rw [unknown] at named
  cases evaluator <;> revert named <;> decide

end EvalForge
